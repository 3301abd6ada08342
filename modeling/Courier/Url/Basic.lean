import Courier.Url.Host

/-! Absolute URLs.

A text is cut from its outside to its inside: first the fragment and the query go off,
then the scheme, and last the authority is parted from the path. Credentials and fragments
are checked as far as they can be wrong, and forgotten. -/

namespace Courier

structure Url where
  scheme : List Char
  host : Option Url.Host
  /-- The port, unless it is the usual one of the scheme. -/
  port : Option Nat
  path : List Char
  /-- The query as it stands in the text. -/
  query : Option (List Char)
  deriving DecidableEq, Repr

namespace Url

/-- How the schemes differ. -/
inductive Kind where
  /-- A scheme of the network: there is always a host, and a backslash is a slash. -/
  | network
  /-- The scheme of files: there may be a host, but no port. -/
  | file
  /-- Any other scheme. -/
  | other
  deriving DecidableEq, Repr

/-- The schemes of the network with their usual ports. -/
def usualPorts : List (List Char × Nat) :=
  [("http".toList, 80), ("https".toList, 443), ("ws".toList, 80), ("wss".toList, 443),
    ("ftp".toList, 21)]

def usualPort? (scheme : List Char) : Option Nat :=
  usualPorts.lookup scheme

def kind (scheme : List Char) : Kind :=
  if (usualPort? scheme).isSome then .network
  else if scheme = "file".toList then .file
  else .other

/-- Whether a character separates the parts of a path. -/
def isSlash (kind : Kind) (c : Char) : Bool :=
  c = '/' || (c = '\\' && kind ≠ .other)

/-! ### The outer parts -/

/-- A text without control characters and spaces at its ends, and without tabs and line
ends anywhere. -/
def clean (cs : List Char) : List Char :=
  let isEdge (c : Char) : Bool := c.toNat ≤ 0x20
  let trimmed := ((cs.dropWhile isEdge).reverse.dropWhile isEdge).reverse
  trimmed.filter fun c => c ≠ '\t' && c ≠ '\n' && c ≠ '\x0d'

/-- A text up to a mark, and what follows the mark if it is there. -/
def cutOff (mark : Char) (cs : List Char) : List Char × Option (List Char) :=
  match Text.cut? mark cs with
  | none => (cs, none)
  | some (front, back) => (front, some back)

/-- The scheme in lower case, and what follows its colon. -/
def cutScheme? (cs : List Char) : Option (List Char × List Char) :=
  match Text.cut? ':' cs with
  | none => none
  | some (scheme, rest) =>
    let isPart (c : Char) : Bool := c.isAlphanum || c = '+' || c = '-' || c = '.'
    if scheme.head?.any Char.isAlpha && scheme.all isPart then
      some (scheme.map Char.toLower, rest)
    else none

/-! ### The authority -/

/-- The host of an authority, and what follows a colon behind it. A colon between brackets
does not end the host. -/
def cutPort (inBrackets : Bool) : List Char → List Char × Option (List Char)
  | [] => ([], none)
  | c :: cs =>
    if c = ':' ∧ ¬inBrackets then ([], some cs)
    else
      let (host, port) := cutPort (c = '[' || (inBrackets && c ≠ ']')) cs
      (c :: host, port)

/-- The port that digits write: none if there are none, or if it is the usual one. -/
def port? (scheme digits : List Char) : Option (Option Nat) :=
  if !digits.all Char.isDigit then none
  else
    let n := digits.foldl (fun n c => n * 10 + (c.toNat - 0x30)) 0
    if 65535 < n then none
    else if digits.isEmpty ∨ usualPort? scheme = some n then some none
    else some (some n)

/-- The credentials in front of the last at sign, if there is one, and what follows it. -/
def cutCredentials (cs : List Char) : Option (List Char) × List Char :=
  if cs.contains '@' then
    let rest := (cs.reverse.takeWhile (· ≠ '@')).reverse
    (some (cs.take (cs.length - rest.length - 1)), rest)
  else (none, cs)

/-- The host and the port of an authority. A host may be empty outside the network, unless
something belongs to it: credentials, a port, or, behind a bare at sign, anything at all. -/
def authority? (kind : Kind) (scheme cs : List Char) (isLast : Bool) :
    Option (Host × Option Nat) :=
  let (credentials, rest) := cutCredentials cs
  let (host, digits) := cutPort false rest
  -- Behind a port a backslash ends the authority for every scheme.
  let digits := digits.map (List.takeWhile (· ≠ '\\'))
  match kind with
  | .network =>
    if host.isEmpty then none
    else do
      let host ← Host.parse? host
      let port ← port? scheme (digits.getD [])
      return (host, port)
  | _ =>
    let owned := digits.isSome ||
      credentials.any fun c => if c.isEmpty then !isLast else c ≠ [':']
    if host.isEmpty ∧ owned then none
    else do
      let host ← Host.parseAny? host
      let port ← port? scheme (digits.getD [])
      return (host, port)

/-! ### The path -/

/-- Whether a segment of a path stands for the directory itself. -/
def isSingleDot (segment : List Char) : Bool :=
  segment = ['.'] || segment.map Char.toLower = "%2e".toList

/-- Whether a segment of a path stands for the directory above. -/
def isDoubleDot (segment : List Char) : Bool :=
  ["..", ".%2e", "%2e.", "%2e%2e"].any fun s => segment.map Char.toLower = s.toList

/-- Whether a segment names a drive. -/
def isDrive : List Char → Bool
  | [c, d] => c.isAlpha && (d = ':' || d = '|')
  | _ => false

/-- The segments without the last one; a drive stays. The list is read backwards. -/
def leave : List (List Char) → List (List Char)
  | [] => []
  | segment :: rest => if isDrive segment then segment :: rest else rest

/-- The segments of a path without dots. `done` is read backwards; a path that ends with
dots ends with an empty segment. -/
def walk (done : List (List Char)) : List (List Char) → List (List Char)
  | [] => done.reverse
  | segment :: rest =>
    let end_ (done : List (List Char)) := if rest.isEmpty then [] :: done else done
    if isDoubleDot segment then walk (end_ (leave done)) rest
    else if isSingleDot segment then walk (end_ done) rest
    else walk (Percent.encode Percent.keptInPath segment :: done) rest

/-- Cuts a path at its slashes. -/
def cutSegments (kind : Kind) (cs : List Char) : List (List Char) :=
  Text.splitOn '/' (cs.map fun c => if isSlash kind c then '/' else c)

/-- The segments of a path, of which the first slash goes. -/
def segments (kind : Kind) (cs : List Char) : List (List Char) :=
  let inner := match cs with
    | [] => []
    | c :: rest => if isSlash kind c then rest else c :: rest
  walk [] (cutSegments kind inner)

/-- A path of segments. -/
def joinSegments (segments : List (List Char)) : List Char :=
  segments.flatMap ('/' :: ·)

/-! ### The whole -/

/-- The URL of a scheme, the text between its colon and its query, and the query. `isLast`
says that nothing else stands behind the text. -/
def assemble? (scheme body : List Char) (query : Option (List Char)) (isLast : Bool) :
    Option Url :=
  let kind := kind scheme
  let isBreak := isSlash kind
  match kind with
  | .network => do
    let body := body.dropWhile isBreak
    let way := body.dropWhile (!isBreak ·)
    let (host, port) ← authority? kind scheme (body.takeWhile (!isBreak ·)) isLast
    let path := joinSegments (segments kind way)
    return ⟨scheme, some host, port, path, query⟩
  | .file =>
    let slashes := (body.take 2).takeWhile isBreak
    let body := body.drop slashes.length
    let name := body.takeWhile (!isBreak ·)
    if slashes.length < 2 ∨ isDrive name then
      some ⟨scheme, none, none, joinSegments (segments kind body), query⟩
    else do
      let host ← if name.isEmpty then some none else (Host.parse? name).map some
      let way := segments kind (body.dropWhile (!isBreak ·))
      -- A path that starts with a drive is a path of this machine.
      let isLocal := host = some (.domain "localhost".toList) ∨ way.head?.any isDrive
      return ⟨scheme, if isLocal then none else host, none, joinSegments way, query⟩
  | .other =>
    match body with
    | '/' :: '/' :: body => do
      let way := body.dropWhile (!isBreak ·)
      let (host, port) ←
        authority? kind scheme (body.takeWhile (!isBreak ·)) (isLast && way.isEmpty)
      let path := if way.isEmpty then [] else joinSegments (segments kind way)
      return ⟨scheme, some host, port, path, query⟩
    | '/' :: _ => some ⟨scheme, none, none, joinSegments (segments kind body), query⟩
    | _ => some ⟨scheme, none, none, body, query⟩

/-- The URL that a text writes. -/
def parse? (text : List Char) : Option Url :=
  let (front, fragment) := cutOff '#' (clean text)
  let (front, query) := cutOff '?' front
  match cutScheme? front with
  | none => none
  | some (scheme, body) => assemble? scheme body query (query.isNone && fragment.isNone)

/-! ### Views -/

/-- The host with its port; nothing if there is no host. -/
def hostPort (u : Url) : List Char :=
  match u.host with
  | none => []
  | some host =>
    host.render ++ match u.port with
      | none => []
      | some n => ':' :: Nat.toDigits 10 n

/-- Where a URL of the network leads to; other URLs have no such place. -/
def origin (u : Url) : List Char :=
  if kind u.scheme = .network then u.scheme ++ "://".toList ++ u.hostPort
  else "null".toList

end Url

end Courier
