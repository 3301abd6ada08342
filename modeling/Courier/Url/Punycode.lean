/-! Punycode: text outside ASCII written with ASCII letters, digits and hyphens.

The ASCII characters come first, then a hyphen, then the other characters in ascending
order, each as the distance from the one before. A distance is the number of places that
a counter over characters and positions moves on; it is written in base thirty-six, its
lowest digit first, and each digit has a threshold below which it is the last. -/

namespace Courier.Url.Punycode

/-- The digit of a value below thirty-six. -/
def digit (n : Nat) : Char :=
  if n < 26 then Char.ofNat (0x61 + n) else Char.ofNat (0x30 + (n - 26))

/-- The value of a digit, in either case. -/
def value? (c : Char) : Option Nat :=
  if c.isLower then some (c.toNat - 0x61)
  else if c.isUpper then some (c.toNat - 0x41)
  else if c.isDigit then some (c.toNat - 0x30 + 26)
  else none

/-- The threshold of the digit that stands at `place`, which counts in steps of
thirty-six. -/
def threshold (bias place : Nat) : Nat :=
  max 1 (min 26 (place - bias))

theorem threshold_pos (bias place : Nat) : 0 < threshold bias place := by
  simp only [threshold]
  omega

/-- The bias for a distance that has been scaled down, after `place` steps of scaling. -/
def settle (place distance : Nat) : Nat :=
  if 455 < distance then settle (place + 36) (distance / 35)
  else place + 36 * distance / (distance + 38)
termination_by distance
decreasing_by omega

/-- The bias after a distance, with the number of characters that then stand. -/
def adapt (distance count : Nat) (first : Bool) : Nat :=
  let scaled := distance / if first then 700 else 2
  settle 0 (scaled + scaled / count)

/-- The bias at the start. -/
def initialBias : Nat := 72

/-- The first character outside ASCII. -/
def firstCode : Nat := 0x80

/-! ### Encoding -/

/-- The digits of a distance from `place` on. -/
def digits (bias place distance : Nat) : List Char :=
  let t := threshold bias place
  if distance < t then [digit distance]
  else digit (t + (distance - t) % (36 - t)) :: digits bias (place + 36) ((distance - t) / (36 - t))
termination_by distance
decreasing_by
  have := threshold_pos bias place
  have := Nat.div_le_self (distance - threshold bias place) (36 - threshold bias place)
  omega

/-- How far an encoder has come. -/
structure Encoder where
  /-- The digits so far. -/
  done : List Char
  distance : Nat
  bias : Nat
  /-- How many characters have been written. -/
  count : Nat

/-- One character of the text, while the characters of the code `code` are written:
smaller ones only move the counter on. -/
def Encoder.pass (basic code : Nat) (e : Encoder) (c : Char) : Encoder :=
  if c.toNat < code then { e with distance := e.distance + 1 }
  else if c.toNat = code then
    { done := e.done ++ digits e.bias 36 e.distance
      distance := 0
      bias := adapt e.distance (e.count + 1) (e.count = basic)
      count := e.count + 1 }
  else e

/-- Writes the characters of the codes in turn, of which `next` is the first that may
come. -/
def Encoder.passes (basic : Nat) (text : List Char) :
    List Nat → Nat → Encoder → Encoder
  | [], _, e => e
  | code :: codes, next, e =>
    let e := { e with distance := e.distance + (code - next) * (e.count + 1) }
    let e := text.foldl (pass basic code) e
    passes basic text codes (code + 1) { e with distance := e.distance + 1 }

/-- A text in Punycode. -/
def encode (text : List Char) : List Char :=
  let basic := text.filter (·.toNat < firstCode)
  let codes := ((text.map Char.toNat).filter (firstCode ≤ ·)).mergeSort.eraseDups
  let start : Encoder := ⟨[], 0, initialBias, basic.length⟩
  let e := start.passes basic.length text codes firstCode
  basic ++ (if basic.isEmpty then [] else ['-']) ++ e.done

/-! ### Decoding -/

/-- The distance that digits write from `place` on, each digit counting `weight` times the
one before, and the digits left. -/
def distance? (bias : Nat) : (place weight : Nat) → List Char → Option (Nat × List Char)
  | _, _, [] => none
  | place, weight, c :: cs =>
    match value? c with
    | none => none
    | some d =>
      let t := threshold bias place
      if d < t then some (d * weight, cs)
      else
        (distance? bias (place + 36) (weight * (36 - t)) cs).map fun (rest, cs) =>
          (d * weight + rest, cs)

theorem length_distance? {bias place weight : Nat} {cs : List Char} {r : Nat × List Char}
    (h : distance? bias place weight cs = some r) : r.2.length < cs.length := by
  induction cs generalizing place weight r with
  | nil => simp [distance?] at h
  | cons c cs ih =>
    rw [distance?] at h
    split at h
    · simp at h
    · simp only at h
      split at h
      · cases h
        simp
      · obtain ⟨⟨rest, left⟩, hq, rfl⟩ := Option.map_eq_some_iff.1 h
        have : left.length < cs.length := ih hq
        simp only [List.length_cons]
        omega

/-- Whether a number is the code of a character. -/
def isCode (n : Nat) : Bool :=
  n < 0xD800 || (0xDFFF < n && n < 0x110000)

/-- Puts characters into a text as distances tell; `code` and `position` are the place of
the counter. -/
def insertAll? (bias code position : Nat) (text cs : List Char) : Option (List Char) :=
  match cs with
  | [] => some text
  | c :: rest =>
    match h : distance? bias 36 1 (c :: rest) with
    | none => none
    | some (distance, left) =>
      have : left.length < (c :: rest).length := length_distance? h
      -- The counter stands at the first position only before the first character.
      let first := position = 0
      let count := text.length + 1
      let code := code + (position + distance) / count
      let position := (position + distance) % count
      if isCode code then
        insertAll? (adapt distance count first) code (position + 1)
          (text.insertIdx position (Char.ofNat code)) left
      else none
termination_by cs.length
decreasing_by exact this

/-- The parts before and after the last hyphen. Without a hyphen, or with nothing before
it, all belongs to the second part. -/
def cutLast (cs : List Char) : List Char × List Char :=
  let after := (cs.reverse.takeWhile (· ≠ '-')).reverse
  let before := cs.take (cs.length - after.length - 1)
  if before.isEmpty then ([], cs) else (before, after)

/-- The text that Punycode writes. -/
def decode? (cs : List Char) : Option (List Char) :=
  let (basic, rest) := cutLast cs
  if basic.all (·.toNat < firstCode) then insertAll? initialBias firstCode 0 basic rest
  else none

end Courier.Url.Punycode
