import Courier.Proofs.Json.Printed
import Courier.Proofs.Json.Values

/-! Compact texts.

The text of an exact value that was read reads back as that value (`parse?_render_of_parse?`), and it
has no blanks but in strings. What stands outside the strings of a text is found with the escapes in
strings in mind (`outside`); of every part of a compact text these are its marks, whatever follows
(`Bare`), and so it is of the whole (`isBlank_of_mem_outside`). -/

namespace Courier.Json

/-! ### Reading back -/

theorem parse?_render_of_parse? {text : String} {j : Json} (h : parse? text = some j)
    (hexact : Exact j) : parse? j.render = some j := by
  obtain ⟨document, -, hvalue⟩ := Option.bind_eq_some_iff.1 h
  rw [parse?, Document.parse?_render hexact, Option.bind_some]
  exact Document.value?_ofJson (Document.settled_of_value? hvalue)

theorem ne_empty_of_parse? {text : String} {j : Json} (h : parse? text = some j) : text ≠ "" := by
  have hempty : parse? "" = none := by decide +kernel
  intro htext
  rw [htext, hempty] at h
  cases h

/-! ### Outside strings -/

mutual
/-- The characters of a text that stand outside its strings, quotes not counted. -/
def outside : List Char → List Char
  | [] => []
  | '"' :: cs => behindString cs
  | c :: cs => c :: outside cs

/-- The same of a text that begins inside a string. -/
def behindString : List Char → List Char
  | [] => []
  | '"' :: cs => outside cs
  | '\\' :: _ :: cs => behindString cs
  | _ :: cs => behindString cs
end

theorem outside_append_of_notMem {part : List Char} (h : '"' ∉ part) (rest : List Char) :
    outside (part ++ rest) = part ++ outside rest := by
  induction part with
  | nil => rfl
  | cons c part ih =>
    rw [List.mem_cons, not_or] at h
    rw [List.cons_append, outside, ih h.2, List.cons_append]
    exact fun hc => h.1 hc.symm

theorem behindString_cons {c : Char} (hquote : c ≠ '"') (hslash : c ≠ '\\') (rest : List Char) :
    behindString (c :: rest) = behindString rest := by
  rw [behindString] <;> simp [hquote, hslash]

theorem behindString_escapeChar (c : Char) (rest : List Char) :
    behindString (escapeChar c ++ rest) = behindString rest := by
  have hescaped (e : Char) (rest : List Char) :
      behindString ('\\' :: e :: rest) = behindString rest := rfl
  have hdigit : ∀ n < 16, Hex.digit n ≠ '"' ∧ Hex.digit n ≠ '\\' := by decide
  unfold escapeChar
  split
  · exact hescaped '"' rest
  split
  · exact hescaped '\\' rest
  split
  · next hcontrol =>
    unfold escapeControl
    split
    case h_6 =>
      obtain ⟨hquote, hslash⟩ := hdigit (c.toNat / 16) (by omega)
      obtain ⟨hquote', hslash'⟩ := hdigit (c.toNat % 16) (by omega)
      simp only [List.cons_append, List.nil_append]
      rw [hescaped, behindString_cons (by decide) (by decide), behindString_cons (by decide) (by decide),
        behindString_cons hquote hslash, behindString_cons hquote' hslash']
    all_goals exact hescaped _ rest
  · next hquote hslash _ => exact behindString_cons hquote hslash rest

/-! ### The text of a value -/

/-- What the part has outside its strings are marks that are not blank, and its strings are
closed. -/
def Bare (part : List Char) : Prop :=
  ∃ marks : List Char, (∀ c ∈ marks, Text.isBlank c = false) ∧
    ∀ rest, outside (part ++ rest) = marks ++ outside rest

theorem Bare.append {part other : List Char} (h : Bare part) (h' : Bare other) :
    Bare (part ++ other) := by
  obtain ⟨marks, hmarks, hpart⟩ := h
  obtain ⟨marks', hmarks', hother⟩ := h'
  refine ⟨marks ++ marks', List.forall_mem_append.2 ⟨hmarks, hmarks'⟩, fun rest => ?_⟩
  rw [List.append_assoc, hpart, hother, List.append_assoc]

theorem bare_of_forall {part : List Char} (h : ∀ c ∈ part, c ≠ '"' ∧ Text.isBlank c = false) :
    Bare part :=
  ⟨part, fun c hc => (h c hc).2, outside_append_of_notMem fun hquote => (h '"' hquote).1 rfl⟩

theorem bare_mark {c : Char} (h : c ≠ '"' ∧ Text.isBlank c = false) : Bare [c] :=
  bare_of_forall (List.forall_mem_singleton.2 h)

theorem bare_renderString (s : String) : Bare (renderString s) := by
  have hinside (cs rest : List Char) :
      behindString (cs.flatMap escapeChar ++ rest) = behindString rest := by
    induction cs with
    | nil => rfl
    | cons c cs ih => rw [List.flatMap_cons, List.append_assoc, behindString_escapeChar, ih]
  refine ⟨[], nofun, fun rest => ?_⟩
  have hquotes : renderString s ++ rest = '"' :: (s.toList.flatMap escapeChar ++ '"' :: rest) := by
    simp [renderString]
  rw [hquotes, outside, hinside]
  rfl

theorem bare_renderInt (n : Int) : Bare (renderInt n) := by
  have hdigits : ∀ c ∈ Decimal.digits n.natAbs, c ≠ '"' ∧ Text.isBlank c = false := by
    intro c hc
    have hdigit : c.isDigit = true := Numeral.isDigit_of_mem_digits hc
    refine ⟨fun hquote => ?_, Numeral.isBlank_of_isDigit hdigit⟩
    rw [hquote] at hdigit
    exact absurd hdigit (by decide)
  have hdecimal : Bare (Decimal.digits n.natAbs) := bare_of_forall hdigits
  unfold renderInt
  split
  · exact (bare_mark (by decide)).append hdecimal
  · exact hdecimal

theorem bare_renderItems {items : List Json} (h : ∀ item ∈ items, Bare item.renderChars) :
    Bare (renderItems items) := by
  induction items with
  | nil => exact bare_of_forall nofun
  | cons item items ih =>
    obtain ⟨hitem, hitems⟩ := List.forall_mem_cons.1 h
    cases items with
    | nil => exact hitem
    | cons next items => exact hitem.append ((bare_mark (by decide)).append (ih hitems))

theorem bare_renderMembers {members : List (String × Json)}
    (h : ∀ m ∈ members, Bare m.2.renderChars) : Bare (renderMembers members) := by
  induction members with
  | nil => exact bare_of_forall nofun
  | cons member members ih =>
    obtain ⟨name, value⟩ := member
    obtain ⟨hvalue, hvalues⟩ := List.forall_mem_cons.1 h
    have hmember : Bare (renderString name ++ ':' :: value.renderChars) :=
      (bare_renderString name).append ((bare_mark (by decide)).append hvalue)
    cases members with
    | nil => exact hmember
    | cons next members => exact hmember.append ((bare_mark (by decide)).append (ih hvalues))

theorem bare_renderChars {j : Json} (h : Exact j) : Bare j.renderChars := by
  induction h with
  | null => exact bare_of_forall (by simp [renderChars, Text.isBlank])
  | bool b => cases b <;> exact bare_of_forall (by simp [renderChars, Text.isBlank])
  | @number n _ => exact bare_renderInt n
  | string s => exact bare_renderString s
  | array _ ih =>
    exact (bare_mark (by decide)).append ((bare_renderItems ih).append (bare_mark (by decide)))
  | object _ ih =>
    exact (bare_mark (by decide)).append ((bare_renderMembers ih).append (bare_mark (by decide)))

theorem isBlank_of_mem_outside {j : Json} (h : Exact j) :
    ∀ c ∈ outside j.render.toList, Text.isBlank c = false := by
  obtain ⟨marks, hmarks, hpart⟩ := bare_renderChars h
  have hwhole : outside j.renderChars = marks := by
    have hnil : outside (j.renderChars ++ []) = marks ++ [] := hpart []
    rwa [List.append_nil, List.append_nil] at hnil
  rw [render, String.toList_ofList, hwhole]
  exact hmarks

end Courier.Json
