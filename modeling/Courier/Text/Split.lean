/-! Cutting texts at characters, and putting the pieces together again.

Splitting always gives one piece more than there are separators, empty pieces included,
so joining the pieces gives the text back (`intercalate_splitOn`). -/

namespace Courier.Text

/-- The pieces between the separators. -/
def splitOn (sep : Char) : List Char → List (List Char)
  | [] => [[]]
  | c :: cs =>
    if c = sep then [] :: splitOn sep cs
    else (splitOn sep cs).modifyHead (c :: ·)

/-- This is core's splitting, the laws of which are known. -/
theorem splitOn_eq (sep : Char) (cs : List Char) : splitOn sep cs = cs.splitOn sep := by
  induction cs with
  | nil => rfl
  | cons c cs ih =>
    rw [splitOn, ih, List.splitOn_cons_eq_if_modifyHead]
    simp only [beq_iff_eq]

/-- There is one piece more than there are separators. -/
theorem length_splitOn (sep : Char) (cs : List Char) :
    (splitOn sep cs).length = cs.count sep + 1 := by
  induction cs with
  | nil => rfl
  | cons c cs ih =>
    rw [splitOn]
    split
    · next hc => rw [hc, List.count_cons_self, List.length_cons, ih]
    · next hc => rw [List.count_cons_of_ne hc, List.length_modifyHead, ih]

theorem notMem_of_mem_splitOn {sep : Char} {cs piece : List Char} (h : piece ∈ splitOn sep cs) :
    sep ∉ piece := by
  induction cs generalizing piece with
  | nil =>
    rw [List.mem_singleton.1 h]
    exact List.not_mem_nil
  | cons c cs ih =>
    rw [splitOn] at h
    split at h
    · rcases List.mem_cons.1 h with rfl | h
      · exact List.not_mem_nil
      · exact ih h
    · next hc =>
      cases hpieces : splitOn sep cs with
      | nil => simp [hpieces] at h
      | cons first rest =>
        rw [hpieces, List.modifyHead_cons] at h
        rcases List.mem_cons.1 h with rfl | h
        · exact List.not_mem_cons_of_ne_of_not_mem (Ne.symm hc) (ih (hpieces ▸ List.mem_cons_self))
        · exact ih (hpieces ▸ List.mem_cons_of_mem first h)

theorem intercalate_splitOn (sep : Char) (cs : List Char) :
    [sep].intercalate (splitOn sep cs) = cs := by
  rw [splitOn_eq]
  exact List.intercalate_splitOn sep

/-- Pieces without the separator are what splitting reads back. -/
theorem splitOn_intercalate {sep : Char} {pieces : List (List Char)}
    (h : ∀ p ∈ pieces, sep ∉ p) (hne : pieces ≠ []) :
    splitOn sep ([sep].intercalate pieces) = pieces := by
  rw [splitOn_eq]
  exact List.splitOn_intercalate sep h hne

theorem intercalate_cons {sep : Char} (piece : List Char) (pieces : List (List Char)) :
    [sep].intercalate (piece :: pieces) = piece ++ pieces.flatMap (sep :: ·) := by
  induction pieces generalizing piece with
  | nil => simp
  | cons next pieces ih => simp [List.intercalate_cons_cons, ih]

theorem getLast?_intercalate {sep c : Char} (front : List (List Char)) {last : List Char}
    (hlast : last.getLast? = some c) : ([sep].intercalate (front ++ [last])).getLast? = some c := by
  induction front with
  | nil => simpa using hlast
  | cons piece front ih =>
    rw [List.cons_append, List.intercalate_cons_of_ne_nil (by simp), List.getLast?_append, ih,
      Option.some_or]

/-- What holds of the separator and of all characters of the pieces holds of those of the whole. -/
theorem forall_mem_intercalate {p : Char → Prop} {sep : Char} (hsep : p sep)
    {pieces : List (List Char)} (h : ∀ piece ∈ pieces, ∀ c ∈ piece, p c) :
    ∀ c ∈ [sep].intercalate pieces, p c := by
  cases pieces with
  | nil => simp
  | cons piece pieces =>
    obtain ⟨hpiece, hpieces⟩ := List.forall_mem_cons.1 h
    rw [intercalate_cons]
    intro c hc
    rcases List.mem_append.1 hc with hc | hc
    · exact hpiece c hc
    · obtain ⟨next, hnext, hc⟩ := List.mem_flatMap.1 hc
      rcases List.mem_cons.1 hc with rfl | hc
      · exact hsep
      · exact hpieces next hnext c hc

/-- Joined pieces hold nothing but what the pieces hold and the separator. -/
theorem notMem_intercalate {x sep : Char} (hsep : x ≠ sep) {pieces : List (List Char)}
    (h : ∀ p ∈ pieces, x ∉ p) : x ∉ [sep].intercalate pieces := by
  intro hx
  exact forall_mem_intercalate hsep (fun p hp c hc hxc => h p hp (hxc ▸ hc)) x hx rfl

/-- What the pieces of a text hold is what the text holds, separators apart. -/
theorem forall_mem_splitOn_iff {p : Char → Prop} {sep : Char} {cs : List Char} :
    (∀ piece ∈ splitOn sep cs, ∀ c ∈ piece, p c) ↔ ∀ c ∈ cs, c = sep ∨ p c := by
  induction cs with
  | nil => simp [splitOn]
  | cons c cs ih =>
    rw [splitOn, List.forall_mem_cons, ← ih]
    split
    · next hc => simp [hc]
    · next hc =>
      cases hpieces : splitOn sep cs with
      | nil => simpa [hpieces] using length_splitOn sep cs
      | cons first rest => simp [hc, and_assoc]

/-! ### Classes of characters -/

/-- Characters that a class tells apart are different. -/
theorem ne_of_class {p : Char → Bool} {c d : Char} (hc : p c = true) (hd : p d = false) :
    c ≠ d := by
  rintro rfl
  rw [hc] at hd
  cases hd

theorem notMem_of_class {p : Char → Bool} {cs : List Char} (h : ∀ c ∈ cs, p c = true) {d : Char}
    (hd : p d = false) : d ∉ cs :=
  fun hmem => ne_of_class (h d hmem) hd rfl

/-! ### Cutting at the first separator -/

/-- What stands before and after the first separator, if there is one. -/
def cut? (sep : Char) : List Char → Option (List Char × List Char)
  | [] => none
  | c :: cs =>
    if c = sep then some ([], cs)
    else (cut? sep cs).map fun (front, back) => (c :: front, back)

theorem cut?_eq_none {sep : Char} {cs : List Char} (h : sep ∉ cs) : cut? sep cs = none := by
  induction cs with
  | nil => rfl
  | cons c cs ih =>
    simp only [List.mem_cons, not_or] at h
    rw [cut?, if_neg (Ne.symm h.1), ih h.2]
    rfl

theorem cut?_append_cons {sep : Char} {front : List Char} (h : sep ∉ front) (back : List Char) :
    cut? sep (front ++ sep :: back) = some (front, back) := by
  induction front with
  | nil => simp [cut?]
  | cons c front ih =>
    have hc : c ≠ sep := fun hc => h (hc ▸ List.mem_cons_self ..)
    rw [List.cons_append, cut?, if_neg hc, ih fun hf => h (List.mem_cons_of_mem c hf)]
    rfl

theorem append_of_cut? {sep : Char} {cs front back : List Char}
    (h : cut? sep cs = some (front, back)) : cs = front ++ sep :: back := by
  induction cs generalizing front with
  | nil => cases h
  | cons c cs ih =>
    rw [cut?] at h
    split at h
    · next hc =>
      cases h
      rw [hc, List.nil_append]
    · obtain ⟨r, hr, hcut⟩ := Option.map_eq_some_iff.1 h
      cases hcut
      rw [List.cons_append, ← ih hr]

theorem notMem_of_cut? {sep : Char} {cs front back : List Char}
    (h : cut? sep cs = some (front, back)) : sep ∉ front := by
  induction cs generalizing front with
  | nil => cases h
  | cons c cs ih =>
    rw [cut?] at h
    split at h
    · cases h
      exact List.not_mem_nil
    · next hc =>
      obtain ⟨r, hr, hcut⟩ := Option.map_eq_some_iff.1 h
      cases hcut
      exact List.not_mem_cons_of_ne_of_not_mem (Ne.symm hc) (ih hr)

theorem cut?_eq_some_iff {sep : Char} {cs front back : List Char} :
    cut? sep cs = some (front, back) ↔ cs = front ++ sep :: back ∧ sep ∉ front := by
  refine ⟨fun h => ⟨append_of_cut? h, notMem_of_cut? h⟩, ?_⟩
  rintro ⟨rfl, h⟩
  exact cut?_append_cons h back

/-- A text with a separator is cut, and not behind that one. -/
theorem exists_cut? (sep : Char) (front back : List Char) :
    ∃ before rest, cut? sep (front ++ sep :: back) = some (before, rest) ∧ back <:+ rest := by
  induction front with
  | nil => exact ⟨[], back, cut?_append_cons List.not_mem_nil back, List.suffix_rfl⟩
  | cons c front ih =>
    by_cases hc : c = sep
    · refine ⟨[], front ++ sep :: back, by rw [List.cons_append, cut?, if_pos hc], ?_⟩
      exact (List.suffix_cons sep back).trans (List.suffix_append ..)
    · obtain ⟨before, rest, hcut, hsuffix⟩ := ih
      refine ⟨c :: before, rest, ?_, hsuffix⟩
      rw [List.cons_append, cut?, if_neg hc, hcut]
      rfl

theorem length_cut? {sep : Char} {cs : List Char} {r : List Char × List Char}
    (h : cut? sep cs = some r) : r.2.length < cs.length := by
  induction cs generalizing r with
  | nil => simp [cut?] at h
  | cons c cs ih =>
    simp only [cut?] at h
    split at h
    · cases h
      simp
    · obtain ⟨q, hq, rfl⟩ := Option.map_eq_some_iff.1 h
      have := ih hq
      simp only [List.length_cons]
      omega

/-- The strings between the separators of a string. -/
def split (sep : Char) (s : String) : List String :=
  (splitOn sep s.toList).map String.ofList

/-- The lines of a text: each ends with a line feed, which is dropped together with one
carriage return before it. A last line that nothing ends counts if it is not empty, and
keeps a carriage return at its end. -/
def lines : List Char → List (List Char)
  | [] => []
  | '\n' :: cs => [] :: lines cs
  | '\x0d' :: '\n' :: cs => [] :: lines cs
  | c :: cs =>
    match lines cs with
    | [] => [[c]]
    | line :: rest =>
      -- A text that goes on with a line feed ends this line there.
      (c :: line) :: rest

/-- Whether the text has the piece somewhere. -/
def occursIn (piece : List Char) : List Char → Bool
  | [] => piece.isEmpty
  | c :: cs => piece.isPrefixOf (c :: cs) || occursIn piece cs

theorem occursIn_iff {piece cs : List Char} : occursIn piece cs = true ↔ piece <:+: cs := by
  induction cs with
  | nil => rw [occursIn, List.isEmpty_iff, List.infix_nil]
  | cons c cs ih =>
    rw [occursIn, Bool.or_eq_true, ih, List.isPrefixOf_iff_prefix, List.infix_cons_iff]

end Courier.Text
