import Courier.Text.Split

/-! Properties of characters: combining class, marks, direction and joining.

Each is a table of characters, written in rows of words as a sequence of runs. A run is a
value and the number of characters that have it, and the runs of a table follow one another
from the first code point on. -/

namespace Courier.Unicode

/-! ### Tables of runs -/

/-- The words of rows. -/
def words (rows : List String) : List String :=
  rows.flatMap (Text.split ' ')

/-- The number that hexadecimal digits in lower case write. -/
def number (cs : List Char) : Nat :=
  cs.foldl (fun n c => n * 16 + if c.isDigit then c.toNat - 0x30 else c.toNat - 0x57) 0

/-- The characters that numbers between dots write. -/
def characters (cs : List Char) : List Char :=
  (Text.splitOn '.' cs).map fun digits => Char.ofNat (number digits)

/-- The name of a value and the length of its run, from a word with a colon. -/
def valueAndLength (word : String) : List Char × Nat :=
  match Text.cut? ':' word.toList with
  | some (name, length) => (name, number length)
  | none => (word.toList, 0)

/-- The value of the run that a place lies in, and how far into the run it lies. -/
def find? {α : Type} : List (α × Nat) → Nat → Option (α × Nat)
  | [], _ => none
  | (value, length) :: runs, place =>
    if place < length then some (value, place) else find? runs (place - length)

/-! ### Properties -/

/-- The canonical combining classes. -/
def combiningRows : List String :=
  [
    "0:300 230:15 232:1 220:4 232:1 216:1 220:5 202:2 220:4 202:2 220:b 1:5 220:4 230:8 240:1",
    "230:1 220:3 230:3 220:2 0:1 230:3 220:4 230:1 232:1 220:2 230:1 233:1 234:2 233:1 234:2",
    "233:1 230:d 0:113 230:5 0:109 220:1 230:4 220:1 230:3 222:1 220:1 230:6 220:6 230:2 220:1",
    "230:2 222:1 228:1 230:1 10:1 11:1 12:1 13:1 14:1 15:1 16:1 17:1 18:1 19:2 20:1 21:1 22:1",
    "0:1 23:1 0:1 24:1 25:1 0:1 230:1 220:1 0:1 18:1 0:48 230:8 30:1 31:1 32:1 0:30 27:1 28:1",
    "29:1 30:1 31:1 32:1 33:1 34:1 230:2 220:2 230:5 220:1 230:2 220:1 0:10 35:1 0:65 230:7 0:2",
    "230:4 220:1 230:1 0:2 230:2 0:1 220:1 230:2 220:1 0:23 36:1 0:1e 230:1 220:1 230:2 220:1",
    "230:2 220:3 230:1 220:2 230:1 220:1 230:3 220:1 230:1 220:1 230:1 220:1 230:1 220:1 230:2",
    "0:a0 230:7 220:1 230:1 0:9 220:1 0:18 230:4 0:1 230:9 0:1 230:3 0:1 230:5 0:2b 220:3 0:3b",
    "230:2 220:3 230:4 0:2a 230:5 220:5 230:e 0:1 220:1 230:2 220:1 230:2 220:1 230:3 220:3 27:1",
    "28:1 29:1 230:3 220:1 230:2 220:2 230:5 0:3c 7:1 0:10 9:1 0:3 230:1 220:1 230:2 0:67 7:1",
    "0:10 9:1 0:30 230:1 0:3d 7:1 0:10 9:1 0:6e 7:1 0:10 9:1 0:6e 7:1 0:10 9:1 0:7f 9:1 0:6e 7:1",
    "0:10 9:1 0:7 84:1 91:1 0:65 7:1 0:10 9:1 0:6d 9:2 0:10 9:1 0:7c 9:1 0:6d 103:2 9:1 0:d",
    "107:4 0:6c 118:2 9:1 0:d 122:4 0:4c 220:2 0:1b 220:1 0:1 220:1 0:1 216:1 0:37 129:1 130:1",
    "0:1 132:1 0:5 130:4 0:2 130:1 0:1 230:2 9:1 0:1 230:2 0:3e 220:1 0:70 7:1 0:1 9:2 0:52",
    "220:1 0:2cf 230:3 0:3b4 9:2 0:1e 9:1 0:9d 9:1 0:a 230:1 0:cb 228:1 0:8f 222:1 230:1 220:1",
    "0:db 230:1 220:1 0:47 9:1 0:14 230:8 0:2 220:1 0:30 230:5 220:6 230:2 220:1 0:1 220:2 230:2",
    "220:2 230:5 220:1 230:12 220:1 230:8 220:1 230:4 234:1 230:4 0:44 7:1 0:f 9:1 0:26 230:1",
    "220:1 230:7 0:36 9:2 0:3a 7:1 0:b 9:2 0:43 7:1 0:98 230:3 0:1 1:1 220:5 230:2 220:4 230:1",
    "0:1 1:7 0:4 220:1 0:6 230:1 0:3 230:2 0:c6 230:2 220:1 230:7 220:1 230:2 234:1 214:1 220:1",
    "202:1 230:25 232:1 228:2 220:1 218:1 230:1 233:1 220:1 230:1 220:1 0:2d0 230:2 1:2 230:4",
    "1:3 230:2 0:4 230:1 0:3 1:2 230:1 220:1 230:1 1:2 220:4 230:1 0:bfe 230:3 0:8d 9:1 0:60",
    "230:20 0:22a 218:1 228:1 232:1 222:1 224:2 0:69 8:2 0:75d4 230:1 0:4 230:a 0:20 230:2 0:50",
    "230:2 0:114 9:1 0:25 9:1 0:97 9:1 0:1b 230:12 0:39 220:3 0:25 9:1 0:5f 7:1 0:c 9:1 0:ef",
    "230:1 0:1 230:2 220:1 0:2 230:2 0:5 230:2 0:1 230:1 0:34 9:1 0:f6 9:1 0:4f30 26:1 0:301",
    "230:7 220:7 230:2 0:3cd 220:1 0:e2 220:1 0:95 230:5 0:692 220:1 0:1 230:1 0:28 230:1 1:1",
    "220:1 0:4 9:1 0:a5 230:1 220:1 0:23d 230:4 0:41 230:5 0:13d 230:2 0:1e 230:1 0:2e 220:2 0:1",
    "220:3 0:46 220:2 230:3 220:1 230:1 220:4 0:31 230:1 220:1 230:1 220:1 0:c0 9:1 0:29 9:1 0:e",
    "9:1 0:39 9:1 7:1 0:45 230:3 0:30 9:2 0:3e 7:1 0:4c 9:1 0:9 7:1 0:6a 9:1 7:1 0:b2 7:1 9:1",
    "0:50 7:2 0:10 9:1 0:18 230:7 0:3 230:5 0:59 9:3 0:71 9:1 0:3 7:1 0:17 230:1 0:63 9:1 7:1",
    "0:fb 9:1 7:1 0:7e 9:1 0:76 9:1 7:1 0:73 9:1 0:10d 9:1 7:1 0:102 9:2 0:4 7:1 0:9c 9:1 0:53",
    "9:1 0:12 9:1 0:51 9:1 0:1a5 9:1 0:102 7:1 0:1 9:2 0:51 9:1 0:1a9 9:2 0:41ec 9:1 0:9c0 1:5",
    "0:3b 230:7 0:4b9 6:2 0:4cac 1:1 0:14c6 216:2 1:3 0:3 226:1 216:5 0:8 220:8 0:2 230:5 220:2",
    "0:1e 230:4 0:94 230:3 0:dbb 230:7 0:1 230:11 0:2 230:7 0:1 230:2 0:1 230:5 0:64 230:1 0:a0",
    "230:7 0:177 230:1 0:3d 230:4 0:1fc 232:2 220:1 230:1 0:fe 230:1 220:1 0:f3 230:1 0:2 230:1",
    "0:7 230:2 0:5 230:1 0:1da 220:7 0:6d 230:6 7:1 0:f16b5"
  ]

def combiningRuns : List (Nat × Nat) :=
  (words combiningRows).map fun word =>
    let (name, length) := valueAndLength word
    (name.foldl (fun n c => n * 10 + (c.toNat - 0x30)) 0, length)

/-- The canonical combining class; zero for a character that starts a sequence. -/
def combiningClass (c : Char) : Nat :=
  ((find? combiningRuns c.toNat).map (·.1)).getD 0

/-- The characters of the general category Mark. -/
def markRows : List String :=
  [
    "-:300 M:70 -:113 M:7 -:107 M:2d -:1 M:1 -:1 M:2 -:1 M:2 -:1 M:1 -:48 M:b -:30 M:15 -:10 M:1",
    "-:65 M:7 -:2 M:6 -:2 M:2 -:1 M:4 -:23 M:1 -:1e M:1b -:5b M:b -:3a M:9 -:9 M:1 -:18 M:4 -:1",
    "M:9 -:1 M:3 -:1 M:5 -:2b M:3 -:3b M:9 -:2a M:18 -:1 M:21 -:36 M:3 -:1 M:12 -:1 M:7 -:a M:2",
    "-:1d M:3 -:38 M:1 -:1 M:7 -:2 M:2 -:2 M:3 -:9 M:1 -:a M:2 -:1a M:1 -:2 M:3 -:38 M:1 -:1 M:5",
    "-:4 M:2 -:2 M:3 -:3 M:1 -:1e M:2 -:3 M:1 -:b M:3 -:38 M:1 -:1 M:8 -:1 M:3 -:1 M:3 -:14 M:2",
    "-:16 M:6 -:1 M:3 -:38 M:1 -:1 M:7 -:2 M:2 -:2 M:3 -:5 M:5 -:a M:2 -:1e M:1 -:3b M:5 -:3 M:3",
    "-:1 M:4 -:9 M:1 -:28 M:5 -:37 M:1 -:1 M:7 -:1 M:3 -:1 M:4 -:7 M:2 -:b M:2 -:1d M:3 -:38 M:1",
    "-:1 M:7 -:1 M:3 -:1 M:4 -:7 M:2 -:b M:2 -:f M:1 -:c M:4 -:37 M:2 -:1 M:7 -:1 M:3 -:1 M:4",
    "-:9 M:1 -:a M:2 -:1d M:3 -:46 M:1 -:4 M:6 -:1 M:1 -:1 M:8 -:12 M:2 -:3d M:1 -:2 M:7 -:c M:8",
    "-:62 M:1 -:2 M:9 -:b M:7 -:49 M:2 -:1b M:1 -:1 M:1 -:1 M:1 -:4 M:2 -:31 M:14 -:1 M:2 -:5",
    "M:b -:1 M:24 -:9 M:1 -:64 M:14 -:17 M:4 -:4 M:3 -:1 M:3 -:2 M:7 -:3 M:4 -:d M:c -:1 M:1 -:a",
    "M:4 -:2bf M:3 -:3b2 M:4 -:1c M:3 -:1d M:2 -:1e M:2 -:40 M:20 -:9 M:1 -:2d M:3 -:1 M:1 -:75",
    "M:2 -:22 M:1 -:76 M:c -:4 M:c -:db M:5 -:39 M:a -:1 M:1d -:2 M:1 -:30 M:40 -:10 M:5 -:2f",
    "M:11 -:26 M:9 -:c M:3 -:1e M:d -:38 M:e -:30 M:14 -:98 M:3 -:1 M:15 -:4 M:1 -:6 M:1 -:2 M:3",
    "-:c6 M:40 -:2d0 M:21 -:bfe M:3 -:8d M:1 -:60 M:20 -:22a M:6 -:69 M:2 -:75d4 M:4 -:1 M:a",
    "-:20 M:2 -:50 M:2 -:110 M:1 -:3 M:1 -:4 M:1 -:17 M:5 -:4 M:1 -:53 M:2 -:32 M:12 -:1a M:12",
    "-:d M:1 -:26 M:8 -:19 M:d -:2c M:4 -:2f M:e -:24 M:1 -:43 M:e -:c M:1 -:8 M:2 -:2d M:3 -:32",
    "M:1 -:1 M:3 -:2 M:2 -:5 M:2 -:1 M:1 -:29 M:5 -:5 M:2 -:ec M:8 -:1 M:2 -:4f30 M:1 -:2e1 M:10",
    "-:10 M:10 -:3cd M:1 -:e2 M:1 -:95 M:5 -:686 M:3 -:1 M:2 -:5 M:4 -:28 M:3 -:4 M:1 -:a5 M:2",
    "-:23d M:4 -:41 M:5 -:13d M:2 -:1e M:1 -:2e M:6 -:46 M:b -:31 M:4 -:7a M:3 -:35 M:f -:29 M:1",
    "-:2 M:2 -:a M:4 -:2d M:b -:7 M:1 -:3d M:3 -:24 M:e -:10 M:2 -:2c M:1 -:c M:3 -:30 M:e -:8",
    "M:4 -:1 M:2 -:5c M:c -:6 M:1 -:2 M:1 -:9d M:c -:15 M:4 -:37 M:2 -:1 M:7 -:2 M:2 -:2 M:3 -:9",
    "M:1 -:a M:2 -:2 M:7 -:3 M:5 -:43 M:9 -:1 M:1 -:2 M:1 -:1 M:4 -:1 M:5 -:1 M:1 -:e M:2 -:52",
    "M:12 -:17 M:1 -:51 M:14 -:eb M:7 -:2 M:9 -:1b M:2 -:52 M:11 -:6a M:d -:65 M:f -:100 M:f",
    "-:f5 M:6 -:1 M:2 -:2 M:4 -:1 M:1 -:1 M:2 -:8d M:7 -:2 M:7 -:3 M:1 -:1c M:a -:28 M:7 -:1 M:4",
    "-:8 M:1 -:9 M:b -:2e M:10 -:c6 M:8 -:c7 M:8 -:1 M:8 -:52 M:16 -:1 M:e -:7a M:6 -:3 M:1 -:1",
    "M:2 -:1 M:7 -:1 M:1 -:42 M:5 -:1 M:2 -:1 M:5 -:58 M:1 -:102 M:4 -:9 M:2 -:1 M:1 -:30 M:7",
    "-:3 M:5 -:17 M:1 -:14e5 M:1 -:6 M:f -:2cc8 M:12 -:9c0 M:5 -:3b M:7 -:418 M:1 -:1 M:37 -:7",
    "M:4 -:51 M:1 -:b M:2 -:4cab M:2 -:1261 M:2e -:2 M:17 -:1e0 M:2 -:3c M:5 -:3 M:6 -:8 M:8 -:2",
    "M:7 -:1e M:4 -:94 M:3 -:b M:32 -:77e M:37 -:4 M:32 -:8 M:1 -:e M:1 -:16 M:5 -:1 M:f -:550",
    "M:7 -:1 M:11 -:2 M:7 -:1 M:2 -:1 M:5 -:64 M:1 -:a0 M:7 -:177 M:1 -:3d M:4 -:1fc M:4 -:fe",
    "M:2 -:f3 M:1 -:2 M:1 -:7 M:2 -:5 M:1 -:1da M:7 -:6d M:7 -:c17b5 M:f0 -:2fe10"
  ]

def markRuns : List (Bool × Nat) :=
  (words markRows).map fun word =>
    let (name, length) := valueAndLength word
    (name = ['M'], length)

/-- Whether a character is a combining mark. -/
def isMark (c : Char) : Bool :=
  ((find? markRuns c.toNat).map (·.1)).getD false

/-- The directions of characters that domain names tell apart. -/
inductive Direction where
  | leftToRight
  | rightToLeft
  | arabicLetter
  | arabicNumber
  | europeanNumber
  | europeanSeparator
  | commonSeparator
  | europeanTerminator
  | otherNeutral
  | boundaryNeutral
  | nonspacingMark
  /-- Any other direction. -/
  | other
  deriving DecidableEq, Repr

def Direction.ofName (name : String) : Direction :=
  match name with
  | "L" => .leftToRight
  | "R" => .rightToLeft
  | "AL" => .arabicLetter
  | "AN" => .arabicNumber
  | "EN" => .europeanNumber
  | "ES" => .europeanSeparator
  | "CS" => .commonSeparator
  | "ET" => .europeanTerminator
  | "ON" => .otherNeutral
  | "BN" => .boundaryNeutral
  | "NSM" => .nonspacingMark
  | _ => .other

/-- The bidirectional classes. -/
def directionRows : List String :=
  [
    "BN:9 -:5 BN:e -:5 ON:2 ET:3 ON:5 ES:1 CS:1 ES:1 CS:2 EN:a CS:1 ON:6 L:1a ON:6 L:1a ON:4",
    "BN:6 -:1 BN:1a CS:1 ON:1 ET:4 ON:4 L:1 ON:2 BN:1 ON:2 ET:2 EN:2 ON:1 L:1 ON:3 EN:1 L:1 ON:5",
    "L:17 ON:1 L:1f ON:1 L:1c1 ON:2 L:7 ON:e L:2 ON:e L:5 ON:9 L:1 ON:11 NSM:70 L:4 ON:2 L:8",
    "ON:1 L:5 ON:2 L:1 ON:1 L:6e ON:1 L:8c NSM:7 L:100 ON:1 L:2 ON:2 ET:1 R:1 NSM:2d R:1 NSM:1",
    "R:1 NSM:2 R:1 NSM:2 R:1 NSM:1 R:38 AN:6 ON:2 AL:1 ET:2 AL:1 CS:1 AL:1 ON:2 NSM:b AL:30",
    "NSM:15 AN:a ET:1 AN:2 AL:3 NSM:1 AL:65 NSM:7 AN:1 ON:1 NSM:6 AL:2 NSM:2 ON:1 NSM:4 AL:2",
    "EN:a AL:17 NSM:1 AL:1e NSM:1b AL:5b NSM:b AL:f R:2b NSM:9 R:2 ON:4 R:3 NSM:1 R:18 NSM:4 R:1",
    "NSM:9 R:1 NSM:3 R:1 NSM:5 R:2b NSM:3 R:4 AL:30 AN:2 AL:5 NSM:9 AL:2a NSM:18 AN:1 NSM:20",
    "L:37 NSM:1 L:1 NSM:1 L:4 NSM:8 L:4 NSM:1 L:3 NSM:7 L:a NSM:2 L:1d NSM:1 L:3a NSM:1 L:4",
    "NSM:4 L:8 NSM:1 L:14 NSM:2 L:e ET:2 L:7 ET:1 L:2 NSM:1 L:2 NSM:2 L:39 NSM:1 L:4 NSM:2 L:4",
    "NSM:2 L:2 NSM:3 L:3 NSM:1 L:1e NSM:2 L:3 NSM:1 L:b NSM:2 L:39 NSM:1 L:4 NSM:5 L:1 NSM:2 L:4",
    "NSM:1 L:14 NSM:2 L:d ET:1 L:8 NSM:6 L:1 NSM:1 L:3a NSM:1 L:2 NSM:1 L:1 NSM:4 L:8 NSM:1 L:5",
    "NSM:4 L:b NSM:2 L:1e NSM:1 L:3d NSM:1 L:c NSM:1 L:25 ON:6 ET:1 ON:1 L:5 NSM:1 L:3 NSM:1",
    "L:37 NSM:1 L:1 NSM:3 L:5 NSM:3 L:1 NSM:4 L:7 NSM:2 L:b NSM:2 L:14 ON:7 L:2 NSM:1 L:3a NSM:1",
    "L:f NSM:2 L:14 NSM:2 L:1c NSM:2 L:39 NSM:2 L:4 NSM:4 L:8 NSM:1 L:14 NSM:2 L:1d NSM:1 L:48",
    "NSM:1 L:7 NSM:3 L:1 NSM:1 L:5a NSM:1 L:2 NSM:7 L:4 ET:1 L:7 NSM:8 L:62 NSM:1 L:2 NSM:9 L:b",
    "NSM:7 L:49 NSM:2 L:1b NSM:1 L:1 NSM:1 L:1 NSM:1 ON:4 L:33 NSM:e L:1 NSM:5 L:1 NSM:2 L:5",
    "NSM:b L:1 NSM:24 L:9 NSM:1 L:66 NSM:4 L:1 NSM:6 L:1 NSM:2 L:2 NSM:2 L:19 NSM:2 L:4 NSM:3",
    "L:10 NSM:4 L:d NSM:1 L:2 NSM:2 L:6 NSM:1 L:f NSM:1 L:2bf NSM:3 L:30 ON:a L:66 ON:1 L:27f",
    "-:1 L:1a ON:2 L:75 NSM:3 L:1d NSM:2 L:1e NSM:2 L:1e NSM:2 L:40 NSM:2 L:1 NSM:7 L:8 NSM:1",
    "L:2 NSM:b L:7 ET:1 L:1 NSM:1 L:12 ON:a L:6 ON:b NSM:3 BN:1 NSM:1 L:75 NSM:2 L:22 NSM:1 L:76",
    "NSM:3 L:4 NSM:2 L:9 NSM:1 L:6 NSM:3 L:4 ON:1 L:3 ON:2 L:98 ON:22 L:17 NSM:2 L:2 NSM:1 L:3a",
    "NSM:1 L:1 NSM:7 L:1 NSM:1 L:1 NSM:1 L:2 NSM:8 L:6 NSM:a L:2 NSM:1 L:30 NSM:40 L:10 NSM:4",
    "L:30 NSM:1 L:1 NSM:4 L:31 NSM:9 L:c NSM:2 L:20 NSM:4 L:2 NSM:2 L:1 NSM:3 L:38 NSM:1 L:1",
    "NSM:2 L:3 NSM:1 L:1 NSM:3 L:3a NSM:8 L:2 NSM:2 L:98 NSM:3 L:1 NSM:d L:1 NSM:7 L:4 NSM:1 L:6",
    "NSM:1 L:3 NSM:2 L:c6 NSM:40 L:1bd ON:1 L:1 ON:3 L:b ON:3 L:d ON:3 L:d ON:3 L:d ON:2 L:1 -:b",
    "BN:3 L:1 R:1 ON:18 -:7 CS:1 ET:5 ON:f CS:1 ON:1a -:1 BN:6 -:4 BN:6 EN:1 L:3 EN:6 ES:2 ON:3",
    "L:1 EN:a ES:2 ON:4 L:10 ET:30 NSM:21 L:f ON:2 L:1 ON:4 L:1 ON:2 L:a ON:1 L:1 ON:3 L:5 ON:6",
    "L:1 ON:1 L:1 ON:1 L:1 ON:1 L:4 ET:1 L:b ON:2 L:4 ON:5 L:5 ON:4 L:2 ON:10 L:29 ON:3 L:4",
    "ON:82 ES:1 ET:1 ON:122 L:45 ON:1a L:1 ON:94 L:16 ON:b L:15 ON:28 EN:14 L:4e ON:1c2 L:1",
    "ON:153 L:100 ON:274 L:2 ON:8a L:e5 ON:6 L:4 NSM:3 L:7 ON:7 L:7f NSM:1 L:60 NSM:20 ON:61",
    "L:1f ON:1a L:1 ON:59 L:c ON:d6 L:1a ON:10 -:1 ON:4 L:3 ON:19 L:9 NSM:4 L:2 ON:1 L:5 ON:2",
    "L:5 ON:3 L:59 NSM:2 ON:2 L:3 ON:1 L:5a ON:1 L:c4 ON:26 L:9 ON:1 L:2d ON:2 L:31 ON:10 L:1c",
    "ON:3 L:32 ON:f L:c ON:4 L:a7 ON:4 L:63 ON:2 L:1f ON:1 L:19c0 ON:40 L:5690 ON:37 L:146 ON:3",
    "L:5f NSM:4 ON:1 NSM:a ON:2 L:1e NSM:2 L:50 NSM:2 L:e ON:22 L:66 ON:1 L:79 NSM:1 L:3 NSM:1",
    "L:4 NSM:1 L:19 NSM:2 L:1 ON:4 NSM:1 L:b ET:2 L:3a ON:4 L:4c NSM:2 L:1a NSM:12 L:d NSM:1",
    "L:26 NSM:8 L:19 NSM:b L:2e NSM:3 L:30 NSM:1 L:2 NSM:4 L:2 NSM:2 L:27 NSM:1 L:43 NSM:6 L:2",
    "NSM:2 L:2 NSM:2 L:c NSM:1 L:8 NSM:1 L:2f NSM:1 L:33 NSM:1 L:1 NSM:3 L:2 NSM:2 L:5 NSM:2 L:1",
    "NSM:1 L:2a NSM:2 L:8 NSM:1 L:73 ON:2 L:79 NSM:1 L:2 NSM:1 L:4 NSM:1 L:4f2f R:1 NSM:1 R:a",
    "ES:1 R:26 AL:73 ON:10 AL:16b ON:12 AL:40 ON:2 AL:36 ON:8 BN:20 AL:d ON:3 NSM:10 ON:a L:6",
    "NSM:10 ON:20 CS:1 ON:1 CS:1 L:1 ON:1 CS:1 ON:9 ET:1 ON:2 ES:2 ON:3 L:1 ON:1 ET:2 ON:1 L:4",
    "AL:8f BN:1 L:1 ON:2 ET:3 ON:5 ES:1 CS:1 ES:1 CS:2 EN:a CS:1 ON:6 L:1a ON:6 L:1a ON:b L:7a",
    "ET:2 ON:3 ET:2 L:1 ON:7 L:1 BN:9 ON:5 BN:2 L:101 ON:1 L:3e ON:4d L:3 ON:d L:3 ON:1 L:5c",
    "NSM:1 L:e2 NSM:1 EN:1b L:7a NSM:5 L:485 R:11f ON:1 R:e1 NSM:3 R:1 NSM:2 R:5 NSM:4 R:28",
    "NSM:3 R:4 NSM:1 R:a5 NSM:2 R:52 ON:7 R:1c0 AL:24 NSM:4 AL:8 AN:a AL:6 AN:a R:1f NSM:5 ON:1",
    "R:f1 AN:1f R:2c NSM:2 R:13 AL:b NSM:1 AL:4 ON:a AL:20 NSM:6 R:30 AL:16 NSM:b AL:1f R:12",
    "NSM:4 R:7a L:1 NSM:1 L:36 NSM:f L:b ON:14 L:a NSM:1 L:2 NSM:2 L:a NSM:3 L:31 NSM:4 L:2",
    "NSM:2 L:7 NSM:1 L:3d NSM:3 L:24 NSM:5 L:1 NSM:8 L:3e NSM:1 L:c NSM:2 L:34 NSM:9 L:a NSM:4",
    "L:2 NSM:1 L:5f NSM:3 L:2 NSM:1 L:1 NSM:2 L:6 NSM:1 L:2 NSM:1 L:9d NSM:1 L:3 NSM:8 L:15",
    "NSM:2 L:39 NSM:2 L:3 NSM:1 L:25 NSM:7 L:3 NSM:5 L:46 NSM:6 L:d NSM:1 L:1 NSM:1 L:1 NSM:1",
    "L:e NSM:2 L:55 NSM:8 L:2 NSM:3 L:1 NSM:1 L:17 NSM:1 L:54 NSM:6 L:1 NSM:1 L:4 NSM:2 L:1",
    "NSM:2 L:ee NSM:4 L:6 NSM:2 L:1 NSM:2 L:1b NSM:2 L:55 NSM:8 L:2 NSM:1 L:1 NSM:2 L:1f ON:d",
    "L:3e NSM:1 L:1 NSM:1 L:2 NSM:6 L:1 NSM:1 L:65 NSM:1 L:1 NSM:1 L:2 NSM:4 L:1 NSM:5 L:103",
    "NSM:9 L:1 NSM:2 L:100 NSM:2 L:1 NSM:1 L:4 NSM:1 L:90 NSM:4 L:2 NSM:2 L:4 NSM:1 L:20 NSM:6",
    "L:2 NSM:2 L:28 NSM:6 L:2 NSM:4 L:8 NSM:1 L:9 NSM:6 L:2 NSM:3 L:2e NSM:d L:1 NSM:2 L:c6",
    "NSM:1 L:1 NSM:3 L:1 NSM:1 L:c9 NSM:7 L:1 NSM:6 L:54 NSM:16 L:2 NSM:7 L:1 NSM:2 L:1 NSM:2",
    "L:7a NSM:6 L:3 NSM:1 L:1 NSM:2 L:1 NSM:7 L:1 NSM:1 L:48 NSM:2 L:3 NSM:1 L:1 NSM:1 L:58",
    "NSM:1 L:102 NSM:2 L:b NSM:2 L:34 NSM:5 L:5 NSM:1 L:1 NSM:1 L:17 NSM:1 L:7a ON:8 ET:4 ON:11",
    "L:144e NSM:1 L:6 NSM:f L:2cc8 NSM:c L:3 NSM:3 L:9c0 NSM:5 L:3b NSM:7 L:418 NSM:1 L:3f NSM:4",
    "L:4f ON:1 L:1 NSM:1 L:4cb8 NSM:2 L:1 BN:4 L:f5c ON:d6 L:1a EN:a ON:3 L:3 ON:1b4 L:6 ON:19",
    "L:d ON:20 NSM:2e L:2 NSM:17 L:220 NSM:3 L:9 BN:8 NSM:8 L:2 NSM:7 L:1e NSM:4 L:3b ON:59",
    "NSM:3 ON:1 L:15 NSM:27 L:7e ON:57 L:36a ON:1 L:19 ON:1 L:1f ON:1 L:19 ON:1 L:1f ON:1 L:19",
    "ON:1 L:1f ON:1 L:19 ON:1 L:1f ON:1 L:19 ON:1 L:a EN:32 L:200 NSM:37 L:4 NSM:32 L:8 NSM:1",
    "L:e NSM:1 L:16 NSM:5 L:1 NSM:f L:50 ON:100 L:400 NSM:7 L:1 NSM:11 L:2 NSM:7 L:1 NSM:2 L:1",
    "NSM:5 L:64 NSM:1 L:a0 NSM:7 L:177 NSM:1 L:3d NSM:4 L:f ET:1 L:1ec NSM:4 L:fe NSM:2 L:f3",
    "NSM:1 L:2 NSM:1 L:7 NSM:2 L:5 NSM:1 L:10a R:d0 NSM:7 R:6d NSM:7 R:325 AL:50 R:40 AL:50 R:b0",
    "AL:f0 ON:2 AL:e R:100 ON:2c L:4 ON:64 L:c ON:f L:2 ON:f L:1 ON:f L:1 ON:25 L:a EN:b ON:5",
    "L:1f ON:1 L:3a ON:6 L:3d ON:3 L:b0 ON:6 L:9a ON:3da L:2 ON:11 L:3 ON:d L:3 ON:da L:6 ON:c",
    "L:4 ON:1c L:4 ON:38 L:8 ON:a L:6 ON:28 L:8 ON:1e L:2 ON:c L:4 ON:2 L:e ON:9 L:27 ON:158 L:8",
    "ON:e L:2 ON:d L:1 ON:1 L:1 ON:d L:1 ON:39 L:1 ON:1 L:3 ON:12 L:1 ON:d L:3 ON:c L:5 ON:93",
    "L:1 ON:5c EN:a ON:1 L:403 BN:2 L:fffe BN:2 L:fffe BN:2 L:fffe BN:2 L:fffe BN:2 L:fffe BN:2",
    "L:fffe BN:2 L:fffe BN:2 L:fffe BN:2 L:fffe BN:2 L:fffe BN:2 L:fffe BN:2 L:fffe BN:102",
    "NSM:f0 BN:e10 L:effe BN:2 L:fffe BN:2 L:fffe BN:2"
  ]

def directionRuns : List (Direction × Nat) :=
  (words directionRows).map fun word =>
    let (name, length) := valueAndLength word
    (.ofName (String.ofList name), length)

def direction (c : Char) : Direction :=
  ((find? directionRuns c.toNat).map (·.1)).getD .other

/-- How a character joins with its neighbours in cursive scripts. -/
inductive Joining where
  | left
  | right
  | dual
  | transparent
  | none
  deriving DecidableEq, Repr

def Joining.ofName (name : String) : Joining :=
  match name with
  | "L" => .left
  | "R" => .right
  | "D" => .dual
  | "T" => .transparent
  | _ => .none

/-- The joining types. -/
def joiningRows : List String :=
  [
    "-:ad T:1 -:252 T:70 -:113 T:7 -:107 T:2d -:1 T:1 -:1 T:2 -:1 T:2 -:1 T:1 -:48 T:b -:1 T:1",
    "-:3 D:1 -:1 R:4 D:1 R:1 D:1 R:1 D:5 R:4 D:d -:1 D:7 R:1 D:2 T:15 -:e D:2 T:1 R:3 -:1 R:3",
    "D:10 R:12 D:26 R:1 D:2 R:9 D:1 R:1 D:1 R:1 D:2 R:2 -:1 R:1 T:7 -:2 T:6 -:2 T:2 -:1 T:4 R:2",
    "-:a D:3 -:2 D:1 -:f T:1 R:1 T:1 D:3 R:5 D:4 R:1 D:9 R:1 D:1 R:1 D:1 R:1 D:2 R:1 T:1b -:2",
    "R:1 D:b R:3 D:f R:2 D:4 R:1 D:1 R:2 D:3 R:2 D:6 -:26 T:b -:19 D:21 T:9 -:9 T:1 -:18 T:4 -:1",
    "T:9 -:1 T:3 -:1 T:5 -:12 R:1 D:5 R:2 D:1 R:1 D:a R:1 D:1 R:3 T:3 -:4 D:1 -:1 D:4 -:1 R:1",
    "D:1 R:2 -:5 R:13 -:3 D:1 -:2 D:5 R:1 D:1 -:7 T:9 D:a R:3 -:1 R:1 D:2 R:2 D:6 R:1 D:f -:1",
    "T:18 -:1 T:20 -:37 T:1 -:1 T:1 -:4 T:8 -:4 T:1 -:3 T:7 -:a T:2 -:1d T:1 -:3a T:1 -:4 T:4",
    "-:8 T:1 -:14 T:2 -:1a T:1 -:2 T:2 -:39 T:1 -:4 T:2 -:4 T:2 -:2 T:3 -:3 T:1 -:1e T:2 -:3 T:1",
    "-:b T:2 -:39 T:1 -:4 T:5 -:1 T:2 -:4 T:1 -:14 T:2 -:16 T:6 -:1 T:1 -:3a T:1 -:2 T:1 -:1 T:4",
    "-:8 T:1 -:5 T:4 -:b T:2 -:1e T:1 -:3d T:1 -:c T:1 -:32 T:1 -:3 T:1 -:37 T:1 -:1 T:3 -:5 T:3",
    "-:1 T:4 -:7 T:2 -:b T:2 -:1d T:1 -:3a T:1 -:2 T:1 -:6 T:1 -:5 T:2 -:14 T:2 -:1c T:2 -:39",
    "T:2 -:4 T:4 -:8 T:1 -:14 T:2 -:1d T:1 -:48 T:1 -:7 T:3 -:1 T:1 -:5a T:1 -:2 T:7 -:c T:8",
    "-:62 T:1 -:2 T:9 -:b T:7 -:49 T:2 -:1b T:1 -:1 T:1 -:1 T:1 -:37 T:e -:1 T:5 -:1 T:2 -:5 T:b",
    "-:1 T:24 -:9 T:1 -:66 T:4 -:1 T:6 -:1 T:2 -:2 T:2 -:19 T:2 -:4 T:3 -:10 T:4 -:d T:1 -:2 T:2",
    "-:6 T:1 -:f T:1 -:2bf T:3 -:3b2 T:3 -:1d T:2 -:1e T:2 -:1e T:2 -:40 T:2 -:1 T:7 -:8 T:1 -:2",
    "T:b -:9 T:1 -:29 D:1 -:3 T:3 -:1 T:1 -:10 D:59 -:c T:2 D:22 T:1 D:1 -:75 T:3 -:4 T:2 -:9",
    "T:1 -:6 T:3 -:db T:2 -:2 T:1 -:3a T:1 -:1 T:7 -:1 T:1 -:1 T:1 -:2 T:8 -:6 T:a -:2 T:1 -:30",
    "T:40 -:10 T:4 -:30 T:1 -:1 T:4 -:31 T:9 -:c T:2 -:20 T:4 -:2 T:2 -:1 T:3 -:38 T:1 -:1 T:2",
    "-:3 T:1 -:1 T:3 -:3a T:8 -:2 T:2 -:98 T:3 -:1 T:d -:1 T:7 -:4 T:1 -:6 T:1 -:3 T:2 -:c6 T:40",
    "-:20b T:1 -:2 T:2 -:1a T:5 -:31 T:5 -:5 T:6 -:60 T:21 -:bfe T:3 -:8d T:1 -:60 T:20 -:22a",
    "T:4 -:6b T:2 -:75d4 T:4 -:1 T:a -:20 T:2 -:50 T:2 -:110 T:1 -:3 T:1 -:4 T:1 -:19 T:2 -:5",
    "T:1 -:13 D:32 L:1 -:51 T:2 -:1a T:12 -:d T:1 -:26 T:8 -:19 T:b -:2e T:3 -:30 T:1 -:2 T:4",
    "-:2 T:2 -:27 T:1 -:43 T:6 -:2 T:2 -:2 T:2 -:c T:1 -:8 T:1 -:2f T:1 -:33 T:1 -:1 T:3 -:2 T:2",
    "-:5 T:2 -:1 T:1 -:2a T:2 -:8 T:1 -:ee T:1 -:2 T:1 -:4 T:1 -:4f30 T:1 -:2e1 T:10 -:10 T:10",
    "-:cf T:1 -:f9 T:3 -:201 T:1 -:e2 T:1 -:95 T:5 -:686 T:3 -:1 T:2 -:5 T:4 -:28 T:3 -:4 T:1",
    "-:80 D:5 R:1 -:1 R:1 -:1 R:2 -:2 L:1 R:5 D:4 L:1 D:5 R:1 D:3 R:1 -:2 R:1 T:2 -:4 D:4 R:1",
    "-:90 D:1 R:1 D:1 R:3 D:3 R:1 D:2 R:1 D:1 R:2 D:1 R:1 -:17 R:4 D:2 -:151 L:1 D:21 R:1 D:1",
    "T:4 -:41 T:5 -:13d T:2 -:15 R:1 D:2 -:1 D:4 -:1 T:1 -:2e T:6 -:30 D:3 R:1 D:11 -:1 T:b D:3",
    "R:1 -:1b D:4 R:2 D:c T:4 -:2a D:1 -:1 D:2 R:3 -:1 D:1 R:2 D:2 R:1 D:2 -:1 D:1 R:2 D:1 -:4",
    "R:1 D:1 L:1 -:35 T:1 -:36 T:f -:29 T:1 -:2 T:2 -:a T:3 -:31 T:4 -:2 T:2 -:7 T:1 -:3d T:3",
    "-:24 T:5 -:1 T:8 -:3e T:1 -:c T:2 -:34 T:9 -:a T:4 -:2 T:1 -:5f T:3 -:2 T:1 -:1 T:2 -:6 T:1",
    "-:2 T:1 -:9d T:1 -:3 T:8 -:15 T:2 -:39 T:2 -:3 T:1 -:25 T:7 -:3 T:5 -:46 T:6 -:d T:1 -:1",
    "T:1 -:1 T:1 -:e T:2 -:55 T:8 -:2 T:3 -:1 T:1 -:17 T:1 -:54 T:6 -:1 T:1 -:4 T:2 -:1 T:2 -:ee",
    "T:4 -:6 T:2 -:1 T:2 -:1b T:2 -:55 T:8 -:2 T:1 -:1 T:2 -:6a T:1 -:1 T:1 -:2 T:6 -:1 T:1 -:65",
    "T:1 -:1 T:1 -:2 T:4 -:1 T:5 -:103 T:9 -:1 T:2 -:100 T:2 -:1 T:1 -:4 T:1 -:90 T:4 -:2 T:2",
    "-:4 T:1 -:20 T:a -:28 T:6 -:2 T:4 -:8 T:1 -:9 T:6 -:2 T:3 -:2e T:d -:1 T:2 -:c6 T:1 -:1 T:3",
    "-:1 T:1 -:c9 T:7 -:1 T:6 -:1 T:1 -:52 T:16 -:2 T:7 -:1 T:2 -:1 T:2 -:7a T:6 -:3 T:1 -:1 T:2",
    "-:1 T:7 -:1 T:1 -:48 T:2 -:3 T:1 -:1 T:1 -:58 T:1 -:102 T:2 -:b T:2 -:34 T:5 -:5 T:1 -:1",
    "T:1 -:17 T:1 -:14d5 T:11 -:6 T:f -:2cc8 T:c -:3 T:3 -:9c0 T:5 -:3b T:7 -:418 T:1 -:3f T:4",
    "-:51 T:1 -:4cb8 T:2 -:1 T:4 -:125c T:2e -:2 T:17 -:220 T:3 -:9 T:10 -:2 T:7 -:1e T:4 -:94",
    "T:3 -:16 T:27 -:77e T:37 -:4 T:32 -:8 T:1 -:e T:1 -:16 T:5 -:1 T:f -:550 T:7 -:1 T:11 -:2",
    "T:7 -:1 T:2 -:1 T:5 -:64 T:1 -:a0 T:7 -:177 T:1 -:3d T:4 -:1fc T:4 -:fe T:2 -:f3 T:1 -:2",
    "T:1 -:7 T:2 -:5 T:1 -:1da T:7 -:29 D:44 T:8 -:c16b5 T:1 -:1e T:60 -:80 T:f0 -:2fe10"
  ]

def joiningRuns : List (Joining × Nat) :=
  (words joiningRows).map fun word =>
    let (name, length) := valueAndLength word
    (.ofName (String.ofList name), length)

def joining (c : Char) : Joining :=
  ((find? joiningRuns c.toNat).map (·.1)).getD .none

end Courier.Unicode
