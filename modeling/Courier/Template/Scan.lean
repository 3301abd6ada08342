import Courier.Text.Utf8
import Courier.Template.Argument

/-! Finding the calls in a text.

A call stands in double braces: `{{name.name(argument)}}`, with at least one character
between the braces, and it ends with the first closing pair. Between the braces stands
exactly one group in parentheses; what is left around the group, cut at dots, is the
chain of names. Braces around anything else are malformed: they are left alone, and they
end the search for calls or not, as the mode says. -/

namespace Courier.Template

/-- What the search for calls does at malformed braces. -/
inductive Mode where
  /-- It ends there. -/
  | stop
  /-- It goes on after them. -/
  | skip
  deriving DecidableEq, Repr, Inhabited

/-- A call in a text. -/
structure Call where
  /-- The collection that the text belongs to. -/
  collection : String
  /-- The call with its braces. -/
  text : String
  /-- Where the call starts in the text, in bytes. -/
  start : Nat
  /-- Where it ends. -/
  stop : Nat
  chain : List String
  argument : Argument
  deriving DecidableEq, Repr

/-- The first group in parentheses, with what stands before and after it. -/
def group? (cs : List Char) : Option (List Char × List Char × List Char) := do
  let (before, rest) ← Text.cut? '(' cs
  let (inside, after) ← Text.cut? ')' rest
  return (before, inside, after)

/-- The chain and the argument that stand between braces. -/
def parseInner? (inner : List Char) : Option (List String × Argument) := do
  let (before, inside, after) ← group? inner
  if (group? after).isSome then none
  else
    let chain := (Text.splitOn '.' (before ++ after)).map (String.ofList ∘ Text.trim)
    return (chain, Argument.ofChars inside)

/-- What stands before and after the first two closing braces. -/
def closing? : List Char → Option (List Char × List Char)
  | [] => none
  | '}' :: '}' :: cs => some ([], cs)
  | c :: cs => (closing? cs).map fun (front, back) => (c :: front, back)

/-- What stands before, inside and after the first braces. Only the first two opening
braces count: if nothing closes them, nothing closes any braces after them. -/
def braced? : List Char → Option (List Char × List Char × List Char)
  | [] => none
  | '{' :: '{' :: c :: cs => (closing? cs).map fun (inner, back) => ([], c :: inner, back)
  | c :: cs => (braced? cs).map fun (front, inner, back) => (c :: front, inner, back)

theorem length_closing? {cs : List Char} {r : List Char × List Char}
    (h : closing? cs = some r) : r.2.length < cs.length := by
  fun_induction closing? cs generalizing r with
  | case1 => simp at h
  | case2 cs =>
    cases h
    simp only [List.length_cons]
    omega
  | case3 c cs _ ih =>
    obtain ⟨q, hq, rfl⟩ := Option.map_eq_some_iff.1 h
    have := ih hq
    simp only [List.length_cons]
    omega

theorem length_braced? {cs : List Char} {r : List Char × List Char × List Char}
    (h : braced? cs = some r) : r.2.2.length < cs.length := by
  fun_induction braced? cs generalizing r with
  | case1 => simp at h
  | case2 c cs =>
    obtain ⟨q, hq, rfl⟩ := Option.map_eq_some_iff.1 h
    have := length_closing? hq
    simp only [List.length_cons]
    omega
  | case3 c cs _ ih =>
    obtain ⟨⟨front, inner, back⟩, hq, rfl⟩ := Option.map_eq_some_iff.1 h
    have : back.length < cs.length := ih hq
    simp only [List.length_cons]
    omega

/-- Text in its braces. -/
def withBraces (inner : List Char) : List Char :=
  '{' :: '{' :: inner ++ ['}', '}']

/-- A text is a sequence of parts. -/
inductive Part where
  /-- Text that stands for itself. -/
  | literal (text : List Char)
  | call (c : Call)
  /-- Malformed braces, with what stands inside them. -/
  | malformed (inner : List Char)

namespace Part

/-- The part as it stands in the text. -/
def source : Part → List Char
  | .literal text => text
  | .call c => c.text.toList
  | .malformed inner => withBraces inner

def call? : Part → Option Call
  | .call c => some c
  | _ => none

def malformed? : Part → Option String
  | .malformed inner => some (String.ofList (withBraces inner))
  | _ => none

end Part

/-- The parts of a text that stands at the byte `offset`. -/
def partsFrom (mode : Mode) (collection : String) (offset : Nat) (cs : List Char) : List Part :=
  match h : braced? cs with
  | none => [.literal cs]
  | some (before, inner, after) =>
    have : after.length < cs.length := length_braced? h
    let start := offset + Utf8.size before
    let stop := start + Utf8.size (withBraces inner)
    match parseInner? inner with
    | some (chain, argument) =>
      let text := String.ofList (withBraces inner)
      .literal before :: .call { collection, text, start, stop, chain, argument }
        :: partsFrom mode collection stop after
    | none =>
      .literal before :: .malformed inner ::
        match mode with
        | .stop => [.literal after]
        | .skip => partsFrom mode collection stop after
termination_by cs.length

/-- The parts of a text. -/
def parts (mode : Mode) (collection text : String) : List Part :=
  partsFrom mode collection 0 text.toList

/-- What a search finds. -/
structure Scan where
  calls : List Call
  /-- The malformed braces that the search has met. -/
  malformed : List String
  deriving DecidableEq, Repr

/-- Searches a text for calls. -/
def scan (mode : Mode) (collection text : String) : Scan :=
  let ps := parts mode collection text
  ⟨ps.filterMap Part.call?, ps.filterMap Part.malformed?⟩

end Courier.Template
