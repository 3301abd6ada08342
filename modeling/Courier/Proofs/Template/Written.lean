import Mathlib.Data.List.Infix
import Courier.Proofs.Template.Argument
import Courier.Proofs.Template.Group
import Courier.Proofs.Template.Splice

/-! Templates as they are written.

A written template is text with placeholders in it: chains of names, each with its arguments
in double quotes. What stands in the arguments and between the placeholders is free, up to the
few characters that would end them. `scan_written`: a search finds exactly the placeholders, in
either mode, and substitution puts their values between the texts, and changes nothing else. -/

namespace Courier.Template

/-! ### Placeholders -/

/-- A name of a chain: none of the characters that structure a call, and no blank ends. -/
structure IsName (name : List Char) : Prop where
  plain : ∀ c ∈ name, c ∉ ['.', '(', ')', '{', '}']
  first : ∀ c ∈ name.head?, Text.isBlank c = false
  last : ∀ c ∈ name.getLast?, Text.isBlank c = false

instance (name : List Char) : Decidable (IsName name) :=
  -- Only what stands in the name is tested: there are finitely many characters, so a bounded
  -- quantifier could as well be decided by trying them all.
  decidable_of_iff
    (name.all (fun c => decide (c ∉ ['.', '(', ')', '{', '}'])) = true ∧
      name.head?.all (fun c => !Text.isBlank c) = true ∧
      name.getLast?.all (fun c => !Text.isBlank c) = true) <| by
    simp only [List.all_eq_true, Option.all_eq_true, decide_eq_true_iff, Bool.not_eq_true']
    exact ⟨fun ⟨plain, first, last⟩ => ⟨plain, first, last⟩, fun h => ⟨h.plain, h.first, h.last⟩⟩

/-- What may stand between the double quotes of an argument. -/
structure IsArgument (text : List Char) : Prop where
  plain : ∀ c ∈ text, c ∉ [',', ')']
  unclosed : ¬['}', '}'] <:+: text

instance (text : List Char) : Decidable (IsArgument text) :=
  decidable_of_iff
    (text.all (fun c => decide (c ∉ [',', ')'])) = true ∧ ¬['}', '}'] <:+: text) <| by
    simp only [List.all_eq_true, decide_eq_true_iff]
    exact ⟨fun ⟨plain, unclosed⟩ => ⟨plain, unclosed⟩, fun h => ⟨h.plain, h.unclosed⟩⟩

/-- A call without a place: a chain of names and their arguments. -/
structure Placeholder where
  chain : List String
  arguments : List String
  chain_ne_nil : chain ≠ [] := by decide
  arguments_ne_nil : arguments ≠ [] := by decide
  isName : ∀ name ∈ chain, IsName name.toList := by decide
  isArgument : ∀ argument ∈ arguments, IsArgument argument.toList := by decide

/-- A text in double quotes. -/
def quoted (text : List Char) : List Char :=
  '"' :: text ++ ['"']

namespace Placeholder

/-- The names of the chain, with dots between them. -/
def names (p : Placeholder) : List Char :=
  ['.'].intercalate (p.chain.map String.toList)

/-- The arguments in their quotes, with commas between them. -/
def items (p : Placeholder) : List Char :=
  [','].intercalate (p.arguments.map fun argument => quoted argument.toList)

/-- What stands between the braces. -/
def inner (p : Placeholder) : List Char :=
  p.names ++ '(' :: (p.items ++ [')'])

/-- The placeholder as it is written. -/
def chars (p : Placeholder) : List Char :=
  withBraces p.inner

/-- The argument that the placeholder has as a call: one text, or several. -/
def argument (p : Placeholder) : Argument :=
  match p.arguments with
  | [text] => .single text
  | texts => .list texts

/-- The call that the placeholder is in a text, if it starts there at the byte `start`. -/
def call (p : Placeholder) (collection : String) (start : Nat) : Call where
  collection
  text := String.ofList p.chars
  start
  stop := start + Utf8.size p.chars
  chain := p.chain
  argument := p.argument

/-! ### Reading a placeholder -/

theorem notMem_quoted {x : Char} (hx : x ≠ '"') {text : List Char} (h : x ∉ text) :
    x ∉ quoted text := by
  simp only [quoted, List.cons_append, List.mem_cons, List.mem_append, List.not_mem_nil, or_false,
    not_or]
  exact ⟨hx, h, hx⟩

theorem item_quoted (text : List Char) : Argument.item (quoted text) = text := by
  have hfirst (c : Char) (hc : (quoted text).head? = some c) : Text.isBlank c = false := by
    cases hc
    decide
  have hlast (c : Char) (hc : (quoted text).getLast? = some c) : Text.isBlank c = false := by
    rw [show (quoted text).getLast? = some '"' from List.getLast?_concat] at hc
    cases hc
    decide
  have htrim : Text.Trimmed (quoted text) (quoted text) :=
    Text.trimmed_iff.2 (Text.trim_eq_self hfirst hlast)
  exact isItem_iff.1 ⟨quoted text, htrim, .quoted text (mem_quotes.2 (.inr rfl))⟩

theorem notMem_item (p : Placeholder) {argument : List Char} {c : Char}
    (h : argument ∈ p.arguments.map fun argument => quoted argument.toList) (hq : c ≠ '"')
    (hc : c ∈ [',', ')']) : c ∉ argument := by
  obtain ⟨text, htext, rfl⟩ := List.mem_map.1 h
  exact notMem_quoted hq fun hmem => (p.isArgument text htext).plain c hmem hc

theorem notMem_name (p : Placeholder) {name : List Char} {c : Char}
    (h : name ∈ p.chain.map String.toList) (hc : c ∈ ['.', '(', ')', '{', '}']) : c ∉ name := by
  obtain ⟨text, htext, rfl⟩ := List.mem_map.1 h
  exact fun hmem => (p.isName text htext).plain c hmem hc

theorem group?_inner (p : Placeholder) : group? p.inner = some (p.names, p.items, []) := by
  have hopen : '(' ∉ p.names :=
    Text.notMem_intercalate (by decide) fun _ h => p.notMem_name h (by decide)
  have hclose : ')' ∉ p.items :=
    Text.notMem_intercalate (by decide) fun _ h => p.notMem_item h (by decide) (by decide)
  exact group?_eq_some_iff.2 ⟨rfl, hopen, hclose⟩

theorem chain_names (p : Placeholder) :
    (Text.splitOn '.' p.names).map (String.ofList ∘ Text.trim) = p.chain := by
  rw [names, Text.splitOn_intercalate (fun _ h => p.notMem_name h (by decide))
    (by simpa using p.chain_ne_nil), List.map_map]
  refine (List.map_congr_left fun name h => ?_).trans (List.map_id _)
  have hname := p.isName name h
  rw [Function.comp_apply, Function.comp_apply, Text.trim_eq_self hname.first hname.last,
    String.ofList_toList]
  rfl

theorem ofChars_items (p : Placeholder) : Argument.ofChars p.items = p.argument := by
  have hitems : (Text.splitOn ',' p.items).map (String.ofList ∘ Argument.item) = p.arguments := by
    rw [items, Text.splitOn_intercalate (fun _ h => p.notMem_item h (by decide) (by decide))
      (by simpa using p.arguments_ne_nil), List.map_map]
    refine (List.map_congr_left fun argument _ => ?_).trans (List.map_id _)
    rw [Function.comp_apply, Function.comp_apply, item_quoted, String.ofList_toList]
    rfl
  rw [Argument.ofChars, hitems]
  rfl

theorem parseInner?_inner (p : Placeholder) : parseInner? p.inner = some (p.chain, p.argument) := by
  rw [parseInner?_of_oneGroup (oneGroup_iff.2 ⟨p.group?_inner, rfl⟩), List.append_nil, chain_names,
    ofChars_items]

theorem noPair_inner (p : Placeholder) : NoPair '}' p.inner := by
  have hnames : '}' ∉ p.names :=
    Text.notMem_intercalate (by decide) fun _ h => p.notMem_name h (by decide)
  have hitems : NoPair '}' p.items := by
    refine noPair_intercalate (by decide) fun _ h => ?_
    obtain ⟨text, htext, rfl⟩ := List.mem_map.1 h
    have htext : NoPair '}' text.toList := noPair_iff.2 (p.isArgument text htext).unclosed
    exact noPair_append_cons (show '"' ≠ '}' by decide)
      (noPair_cons.2 ⟨fun h => absurd h.1 (by decide), htext⟩) .nil
  exact noPair_append_cons (by decide) (noPair_of_notMem hnames)
    (noPair_append_cons (by decide) hitems .nil)

/-- The braces of a placeholder are the first in a text that opens none before them. -/
theorem braced?_chars (p : Placeholder) {before : List Char} (h : NoPair '{' before)
    (hlast : before.getLast? ≠ some '{') (after : List Char) :
    braced? (before ++ (p.chars ++ after)) = some (before, p.inner, after) := by
  have hend : p.inner.getLast? ≠ some '}' := by
    rw [inner, ← List.cons_append, ← List.append_assoc, List.getLast?_concat]
    decide
  have hpair := p.noPair_inner
  rw [chars]
  cases hi : p.inner with
  | nil => simp [inner] at hi
  | cons c cs =>
    rw [hi] at hend hpair
    have hclose := closing?_append (noPair_cons.1 hpair).2 (getLast?_tail_ne hend) after
    have htext : withBraces (c :: cs) ++ after = '{' :: '{' :: c :: (cs ++ '}' :: '}' :: after) := by
      simp [withBraces]
    rw [htext, braced?_append h hlast hclose]

end Placeholder

/-! ### Templates -/

/-- Text around placeholders: it opens no braces, not even together with a brace behind it. -/
structure Literal where
  text : List Char
  unopened : ¬['{', '{'] <:+: text := by decide
  last : text.getLast? ≠ some '{' := by decide

/-- Literals with placeholders between them. -/
inductive Written where
  | literal (lit : Literal)
  | call (lit : Literal) (p : Placeholder) (rest : Written)

namespace Written

/-- The template as a text. -/
def chars : Written → List Char
  | .literal lit => lit.text
  | .call lit p rest => lit.text ++ (p.chars ++ rest.chars)

/-- The calls that the placeholders are, if the template starts at the byte `offset`. -/
def calls (collection : String) (offset : Nat) : Written → List Call
  | .literal _ => []
  | .call lit p rest =>
    let start := offset + Utf8.size lit.text
    p.call collection start :: rest.calls collection (start + Utf8.size p.chars)

/-- The literals, with the values between them. -/
def withValues : Written → List Value → List Char
  | .literal lit, _ => lit.text
  | .call lit p rest, [] => lit.text ++ (p.chars ++ rest.chars)
  | .call lit _ rest, v :: vs => lit.text ++ (v.toText.toList ++ rest.withValues vs)

/-- The parts that the literals and the placeholders are. -/
def parts (collection : String) (offset : Nat) : Written → List Part
  | .literal lit => [.literal lit.text]
  | .call lit p rest =>
    let start := offset + Utf8.size lit.text
    .literal lit.text :: .call (p.call collection start) ::
      rest.parts collection (start + Utf8.size p.chars)

/-- **A written template is cut into what it was written from**, in either mode. -/
theorem partsFrom_chars (t : Written) (mode : Mode) (collection : String) (offset : Nat) :
    partsFrom mode collection offset t.chars = t.parts collection offset := by
  induction t generalizing offset with
  | literal lit => exact partsFrom_of_none (braced?_eq_none (noPair_iff.2 lit.unopened))
  | call lit p rest ih =>
    have hbraced := p.braced?_chars (noPair_iff.2 lit.unopened) lit.last rest.chars
    rw [chars, partsFrom_of_call hbraced p.parseInner?_inner, parts, ← ih]
    rfl

theorem filterMap_call?_parts (t : Written) (collection : String) (offset : Nat) :
    (t.parts collection offset).filterMap Part.call? = t.calls collection offset := by
  induction t generalizing offset with
  | literal lit => rfl
  | call lit p rest ih => exact congrArg (_ :: ·) (ih _)

theorem filterMap_malformed?_parts (t : Written) (collection : String) (offset : Nat) :
    (t.parts collection offset).filterMap Part.malformed? = [] := by
  induction t generalizing offset with
  | literal lit => rfl
  | call lit p rest ih => exact ih _

theorem sources_parts (t : Written) (collection : String) (offset : Nat) :
    sources (t.parts collection offset) = t.chars := by
  rw [← t.partsFrom_chars .skip, sources_partsFrom]

theorem withValues_parts (t : Written) (collection : String) (offset : Nat) (vs : List Value) :
    Template.withValues (t.parts collection offset) vs = t.withValues vs := by
  induction t generalizing offset vs with
  | literal lit => exact List.append_nil lit.text
  | call lit p rest ih =>
    rw [parts, withValues_of_text rfl]
    cases vs with
    | nil =>
      rw [Template.withValues, sources_cons, sources_parts, withValues, Part.source, Part.source,
        Placeholder.call, String.toList_ofList]
    | cons v vs => rw [Template.withValues, ih, withValues, Part.source]

/-- The template as a string. -/
def text (t : Written) : String :=
  String.ofList t.chars

theorem parts_text (t : Written) (mode : Mode) (collection : String) :
    Template.parts mode collection t.text = t.parts collection 0 := by
  rw [Template.parts, text, String.toList_ofList, partsFrom_chars]

/-- **Reading a written template.** Whatever stands in its literals and its arguments, a search
in either mode finds its placeholders and nothing malformed, and with all their values found
from left to right, substitution leaves the literals with these values between them. -/
theorem scan_written (t : Written) (mode : Mode) (collection : String) :
    scan mode collection t.text = ⟨t.calls collection 0, []⟩ ∧
      ∀ (c : Context) (s s' : Random.Source) (vs : List Value),
        Evaluates (Call.evaluate c) (t.calls collection 0) s vs s' →
          substitute c collection t.text s = (.ok (String.ofList (t.withValues vs)), s') := by
  have hscan (mode : Mode) : scan mode collection t.text = ⟨t.calls collection 0, []⟩ := by
    simp only [scan, parts_text, filterMap_call?_parts, filterMap_malformed?_parts]
  refine ⟨hscan mode, fun c s s' vs h => ?_⟩
  have hcalls : (scan c.settings.scanMode collection t.text).calls = t.calls collection 0 := by
    rw [hscan]
  rw [← hcalls] at h
  rw [substitute, substituteWith_of_evaluates h, filled, parts_text, withValues_parts]

end Written

/-- A context with nothing in it but the time. -/
def bareContext : Context where
  listing := Workspace.Store.listing .empty
  latest := fun _ => none
  files := Files.bareReader
  picked := none
  seconds := 1700000000
  settings := .default

/-- Braces, parentheses and quotes wherever a template may have them. -/
def specimen : Written :=
  .call { text := "a\x7d\x7d (".toList }
    { chain := ["timestamp", "nobody"], arguments := ["\x7b\x7bx(", "\n\x7d"] } <|
  .call { text := "é ".toList } { chain := ["nobody"], arguments := ["\"", "'\x7d"] } <|
  .literal { text := "\x7b \x7d\x7d".toList }

theorem specimen_written :
    Evaluates (Call.evaluate bareContext) (specimen.calls "c1" 0) (.ofWords [])
        [.text "1700000000", .list ["\"", "'\x7d"]] (.ofWords []) ∧
      scan .stop "c1" specimen.text = ⟨specimen.calls "c1" 0, []⟩ ∧
      substitute bareContext "c1" specimen.text (.ofWords []) =
        (.ok "a\x7d\x7d (1700000000é \",'\x7d\x7b \x7d\x7d", .ofWords []) := by
  have h : Evaluates (Call.evaluate bareContext) (specimen.calls "c1" 0) (.ofWords [])
      [.text "1700000000", .list ["\"", "'\x7d"]] (.ofWords []) := .cons rfl (.cons rfl .nil)
  obtain ⟨hscan, hfilled⟩ := Written.scan_written specimen .stop "c1"
  exact ⟨h, hscan, hfilled bareContext _ _ _ h⟩

end Courier.Template
