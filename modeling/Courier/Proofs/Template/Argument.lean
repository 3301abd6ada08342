import Mathlib.Data.String.Basic
import Courier.Proofs.Text.Pieces
import Courier.Template.Value

/-! What a text between parentheses says.

A comma always separates, also between quotes, and an item is what stands between two commas without
the blanks at its ends, and then without one pair of quotes. `Writes` says so of the texts alone,
and the argument that is read is the one that the text writes (`writes_iff`). The items have no
commas, and the value of the argument, as a text, has the commas of the text that it was written in:
cut at them it gives the items back (`split_toText_parse`). -/

namespace Courier.Template

/-! ### Items -/

/-- The quotes that an item may stand in. -/
def quotes : List Char :=
  ['\'', '"']

theorem mem_quotes {quote : Char} : quote ∈ quotes ↔ quote = '\'' ∨ quote = '"' := by
  simp [quotes]

/-- A text without the pair of quotes that it stands in, if it stands in one. -/
inductive Unquoted : List Char → List Char → Prop
  | quoted {quote : Char} (inside : List Char) (h : quote ∈ quotes) :
      Unquoted (quote :: inside ++ [quote]) inside
  | bare {cs : List Char} (h : ∀ quote ∈ quotes, ∀ inside, cs ≠ quote :: inside ++ [quote]) :
      Unquoted cs cs

/-- What a piece of an argument says: it loses the blanks around it, and then one pair of quotes. -/
def IsItem (piece item : List Char) : Prop :=
  ∃ middle, Text.Trimmed piece middle ∧ Unquoted middle item

section
variable {quote : Char} {cs inside item piece : List Char}

theorem Argument.unquote?_eq_some_iff :
    unquote? quote cs = some inside ↔ cs = quote :: inside ++ [quote] := by
  constructor
  · intro h
    unfold unquote? at h
    split at h
    · next hquotes =>
      obtain ⟨hlength, hfirst, hlast⟩ := hquotes
      cases h
      obtain ⟨cs, rfl⟩ := List.head?_eq_some_iff.1 hfirst
      have hne : cs ≠ [] := by
        intro hnil
        simp [hnil] at hlength
      rw [List.getLast?_cons_of_ne_nil hne] at hlast
      rw [List.drop_one, List.tail_cons, List.cons_append, List.dropLast_append_getLast? _ hlast]
    · cases h
  · intro h
    subst h
    have hlast : (quote :: inside ++ [quote]).getLast? = some quote := List.getLast?_concat
    rw [unquote?, if_pos ⟨by simp, rfl, hlast⟩]
    simp

theorem Argument.unquote?_eq_none_iff :
    unquote? quote cs = none ↔ ∀ inside, cs ≠ quote :: inside ++ [quote] := by
  simp only [Option.eq_none_iff_forall_ne_some, ne_eq, unquote?_eq_some_iff]

open Argument (unquote? unquote?_eq_some_iff unquote?_eq_none_iff)

theorem unquoted_iff :
    Unquoted cs item ↔ ((unquote? '\'' cs).or (unquote? '"' cs)).getD cs = item := by
  constructor
  · intro h
    cases h with
    | quoted inside hquote =>
      rcases mem_quotes.1 hquote with rfl | rfl
      · rw [unquote?_eq_some_iff.2 rfl]
        rfl
      · have hsingle : unquote? '\'' ('"' :: item ++ ['"']) = none :=
          unquote?_eq_none_iff.2 fun _ h => absurd (List.cons.inj h).1 (by decide)
        rw [hsingle, unquote?_eq_some_iff.2 rfl]
        rfl
    | bare h =>
      rw [unquote?_eq_none_iff.2 (h '\'' (mem_quotes.2 (.inl rfl))),
        unquote?_eq_none_iff.2 (h '"' (mem_quotes.2 (.inr rfl)))]
      rfl
  · intro h
    subst h
    cases hsingle : unquote? '\'' cs with
    | some inside =>
      rw [unquote?_eq_some_iff.1 hsingle]
      exact .quoted inside (mem_quotes.2 (.inl rfl))
    | none =>
      cases hdouble : unquote? '"' cs with
      | some inside =>
        rw [unquote?_eq_some_iff.1 hdouble]
        exact .quoted inside (mem_quotes.2 (.inr rfl))
      | none =>
        refine .bare fun quote hquote => ?_
        rcases mem_quotes.1 hquote with rfl | rfl
        · exact unquote?_eq_none_iff.1 hsingle
        · exact unquote?_eq_none_iff.1 hdouble

theorem isItem_iff : IsItem piece item ↔ Argument.item piece = item := by
  simp only [IsItem, Text.trimmed_iff, exists_eq_left', unquoted_iff, Argument.item]

/-- An item takes its characters from the text between the commas. -/
theorem Argument.item_subset (cs : List Char) : Argument.item cs ⊆ cs := by
  obtain ⟨middle, htrim, hitem⟩ := isItem_iff.2 (rfl : Argument.item cs = _)
  have hmiddle : middle ⊆ cs := by
    rw [← Text.trimmed_iff.1 htrim]
    exact (Text.trim_infix cs).subset
  generalize Argument.item cs = inside at hitem ⊢
  cases hitem with
  | quoted inside hquote => exact fun c hc => hmiddle (by simp [hc])
  | bare h => exact hmiddle

end

/-! ### The argument -/

/-- The text writes the argument: one item if it has no comma, and otherwise a list of one item more
than it has commas. -/
inductive Writes (inside : List Char) : Argument → Prop
  | single {item : String} (hplain : ',' ∉ inside) (hitem : IsItem inside item.toList) :
      Writes inside (.single item)
  | list {pieces : List (List Char)} {items : List String} (hcomma : ',' ∈ inside)
      (hpieces : Text.Pieces ',' inside pieces)
      (hitems : List.Forall₂ (fun piece item => IsItem piece item.toList) pieces items)
      (hlength : items.length = inside.count ',' + 1) : Writes inside (.list items)

section
variable {inside : List Char}

theorem Argument.ofChars_of_notMem (h : ',' ∉ inside) :
    ofChars inside = .single (String.ofList (item inside)) := by
  have hpieces : Text.splitOn ',' inside = [inside] :=
    Text.pieces_iff.1 ⟨by simp, by simp, by simpa using h⟩
  rw [ofChars, hpieces]
  rfl

theorem Argument.ofChars_of_mem (h : ',' ∈ inside) :
    ofChars inside = .list ((Text.splitOn ',' inside).map (String.ofList ∘ item)) := by
  have hlength := Text.length_splitOn ',' inside
  have hcount : 0 < inside.count ',' := List.count_pos_iff.2 h
  rw [ofChars]
  split
  · next text hsingle =>
    rw [← List.length_map (String.ofList ∘ item), hsingle, List.length_singleton] at hlength
    omega
  · rfl

theorem writes_iff {argument : Argument} :
    Writes inside argument ↔ Argument.ofChars inside = argument := by
  have hpiece (piece : List Char) (item : String) :
      IsItem piece item.toList ↔ (String.ofList ∘ Argument.item) piece = item := by
    rw [isItem_iff, Function.comp_apply, String.ofList_eq]
  constructor
  · intro h
    cases h with
    | single hplain hitem =>
      rw [Argument.ofChars_of_notMem hplain, ← Function.comp_apply (f := String.ofList),
        (hpiece ..).1 hitem]
    | list hcomma hpieces hitems hlength =>
      rw [Argument.ofChars_of_mem hcomma, Text.pieces_iff.1 hpieces,
        (Text.forall₂_iff_map hpiece).1 hitems]
  · intro h
    subst h
    by_cases hcomma : ',' ∈ inside
    · rw [Argument.ofChars_of_mem hcomma]
      refine .list hcomma (Text.pieces_iff.2 rfl) ((Text.forall₂_iff_map hpiece).2 rfl) ?_
      rw [List.length_map, Text.length_splitOn]
    · rw [Argument.ofChars_of_notMem hcomma]
      exact .single hcomma ((hpiece ..).2 rfl)

end

/-! ### The value -/

namespace Argument

/-- The items that a text writes between its commas. -/
def items (raw : String) : List (List Char) :=
  (Text.splitOn ',' raw.toList).map item

theorem comma_notMem_items (raw : String) : ∀ item ∈ items raw, ',' ∉ item := by
  intro item hitem
  obtain ⟨piece, hpiece, rfl⟩ := List.mem_map.1 hitem
  exact fun hcomma => Text.notMem_of_mem_splitOn hpiece (item_subset piece hcomma)

theorem length_items (raw : String) : (items raw).length = raw.toList.count ',' + 1 := by
  rw [items, List.length_map, Text.length_splitOn]

theorem items_ne_nil (raw : String) : items raw ≠ [] := by
  rw [← List.length_pos_iff, length_items]
  exact Nat.succ_pos _

/-- The items of an argument: a text without a comma is one item. -/
def toList : Argument → List String
  | .single text => [text]
  | .list items => items

theorem toList_ofChars (cs : List Char) :
    (ofChars cs).toList = (Text.splitOn ',' cs).map (String.ofList ∘ item) := by
  rw [ofChars]
  split
  · next text hsingle =>
    rw [hsingle]
    rfl
  · rfl

theorem toList_parse (raw : String) : (parse raw).toList = (items raw).map String.ofList := by
  rw [parse, toList_ofChars, items, List.map_map]

/-- A value shows the items of its argument, joined again. -/
theorem toText_ofArgument (argument : Argument) :
    (Value.ofArgument argument).toText = ",".intercalate argument.toList := by
  cases argument with
  | single text => exact String.intercalate_singleton.symm
  | list items => rfl

theorem toText_parse (raw : String) :
    (Value.ofArgument (parse raw)).toText = ",".intercalate ((items raw).map String.ofList) := by
  rw [toText_ofArgument, toList_parse]

theorem toList_toText_parse (raw : String) :
    (Value.ofArgument (parse raw)).toText.toList = [','].intercalate (items raw) := by
  rw [toText_parse, String.toList_intercalate, List.map_map]
  exact congrArg _ ((List.map_congr_left fun item _ => String.toList_ofList).trans (List.map_id _))

/-- The commas of an argument are those between its items. -/
theorem split_toText_parse (raw : String) :
    Text.split ',' (Value.ofArgument (parse raw)).toText = (items raw).map String.ofList := by
  rw [Text.split, toList_toText_parse,
    Text.splitOn_intercalate (comma_notMem_items raw) (items_ne_nil raw)]

theorem count_comma_toText_parse (raw : String) :
    (Value.ofArgument (parse raw)).toText.toList.count ',' = raw.toList.count ',' := by
  have hlength : (Text.split ',' (Value.ofArgument (parse raw)).toText).length =
      raw.toList.count ',' + 1 := by
    rw [split_toText_parse, List.length_map, length_items]
  rw [Text.split, List.length_map, Text.length_splitOn] at hlength
  exact Nat.succ.inj hlength

end Argument

end Courier.Template
