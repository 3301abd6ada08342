import Mathlib.Data.List.Forall2
import Mathlib.Data.List.TakeWhile
import Courier.Text.Blank
import Courier.Text.Split

/-! What splitting and trimming leave of a text.

The pieces of a text are told by what they join to, and trimmed text by what stands around it, so
that neither is told by the way it is found: there is one list of pieces and one trimmed text, and
`splitOn` and `trim` give them (`pieces_iff`, `trimmed_iff`). -/

namespace Courier.Text

/-! ### Pieces -/

/-- The text is these pieces with separators between them, and they hold no separator. -/
structure Pieces (sep : Char) (cs : List Char) (pieces : List (List Char)) : Prop where
  ne_nil : pieces ≠ []
  joined : [sep].intercalate pieces = cs
  notMem : ∀ piece ∈ pieces, sep ∉ piece

theorem pieces_iff {sep : Char} {cs : List Char} {pieces : List (List Char)} :
    Pieces sep cs pieces ↔ splitOn sep cs = pieces := by
  constructor
  · intro h
    rw [← h.joined, splitOn_intercalate h.notMem h.ne_nil]
  · intro h
    subst h
    refine ⟨?_, intercalate_splitOn sep cs, fun _ => notMem_of_mem_splitOn⟩
    rw [← List.length_pos_iff, length_splitOn]
    exact Nat.succ_pos _

/-! ### Trimmed text -/

/-- The text is the middle between blanks, and no blank is left at the ends of the middle. -/
structure Trimmed (cs middle : List Char) : Prop where
  around : ∃ front back, cs = front ++ middle ++ back ∧
    (∀ c ∈ front, isBlank c = true) ∧ ∀ c ∈ back, isBlank c = true
  first : ∀ c, middle.head? = some c → isBlank c = false
  last : ∀ c, middle.getLast? = some c → isBlank c = false

theorem blank_append_trimStart (cs : List Char) :
    ∃ front, cs = front ++ trimStart cs ∧ ∀ c ∈ front, isBlank c = true :=
  ⟨cs.takeWhile isBlank, List.takeWhile_append_dropWhile.symm, fun _ => List.mem_takeWhile_imp⟩

theorem trimEnd_append_blank (cs : List Char) :
    ∃ back, cs = trimEnd cs ++ back ∧ ∀ c ∈ back, isBlank c = true := by
  obtain ⟨front, hcs, hfront⟩ := blank_append_trimStart cs.reverse
  refine ⟨front.reverse, ?_, by simpa using hfront⟩
  rw [trimEnd, ← List.reverse_append, ← hcs, List.reverse_reverse]

theorem trim_append_blank (cs : List Char) {back : List Char} (h : ∀ c ∈ back, isBlank c = true) :
    trim (cs ++ back) = trim cs := by
  induction back generalizing cs with
  | nil => rw [List.append_nil]
  | cons c back ih =>
    obtain ⟨hc, hback⟩ := List.forall_mem_cons.1 h
    rw [List.append_cons, ih (cs ++ [c]) hback, trim_concat hc]

theorem trimmed_iff {cs middle : List Char} : Trimmed cs middle ↔ trim cs = middle := by
  constructor
  · intro h
    obtain ⟨front, back, hcs, hfront, hback⟩ := h.around
    have hstart : trimStart (front ++ middle) = trimStart middle :=
      List.dropWhile_append_of_pos hfront
    rw [hcs, trim_append_blank _ hback, trim, hstart]
    exact trim_eq_self h.first h.last
  · intro h
    subst h
    obtain ⟨front, hfront, hblank⟩ := blank_append_trimStart cs
    obtain ⟨back, hback, hblank'⟩ := trimEnd_append_blank (trimStart cs)
    refine ⟨⟨front, back, ?_, hblank, hblank'⟩, fun _ => isBlank_of_head?_trim,
      fun _ => isBlank_of_getLast?_trim⟩
    rw [List.append_assoc, trim, ← hback]
    exact hfront

/-! ### Piece by piece -/

/-- What is told of each piece by a function of it tells the list. -/
theorem forall₂_iff_map {α β : Type} {R : α → β → Prop} {f : α → β} (h : ∀ a b, R a b ↔ f a = b)
    {as : List α} {bs : List β} : List.Forall₂ R as bs ↔ as.map f = bs := by
  have hR : R = fun a b => f a = b := funext fun a => funext fun b => propext (h a b)
  rw [hR, ← List.forall₂_map_left_iff (R := (· = ·)), List.forall₂_eq_eq_eq]

end Courier.Text
