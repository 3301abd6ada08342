/-! Blank characters, and texts without their blank ends.

Blank means the Unicode property White_Space, which is wider than the four characters
of `Char.isWhitespace`: the no-break space and the ideographic space are blank too. -/

namespace Courier.Text

/-- The characters with the Unicode property White_Space. -/
def isBlank (c : Char) : Bool :=
  let n := c.toNat
  (0x09 ≤ n && n ≤ 0x0D) || n == 0x20 || n == 0x85 || n == 0xA0 || n == 0x1680
    || (0x2000 ≤ n && n ≤ 0x200A) || n == 0x2028 || n == 0x2029 || n == 0x202F
    || n == 0x205F || n == 0x3000

/-- The text from its first character that is not blank. -/
def trimStart (cs : List Char) : List Char :=
  cs.dropWhile isBlank

/-- The text up to its last character that is not blank. -/
def trimEnd (cs : List Char) : List Char :=
  (trimStart cs.reverse).reverse

/-- The text without its blank ends. -/
def trim (cs : List Char) : List Char :=
  trimEnd (trimStart cs)

theorem trimStart_eq_self {cs : List Char} (h : ∀ c, cs.head? = some c → isBlank c = false) :
    trimStart cs = cs := by
  cases cs with
  | nil => rfl
  | cons c cs => simp [trimStart, h c rfl]

/-- Text whose ends are not blank is all that trimming leaves of it. -/
theorem trim_eq_self {cs : List Char} (hhead : ∀ c, cs.head? = some c → isBlank c = false)
    (hlast : ∀ c, cs.getLast? = some c → isBlank c = false) : trim cs = cs := by
  rw [trim, trimEnd, trimStart_eq_self hhead, trimStart_eq_self (by simpa using hlast),
    List.reverse_reverse]

theorem trimStart_eq_nil_iff {cs : List Char} :
    trimStart cs = [] ↔ ∀ c ∈ cs, isBlank c = true := by
  induction cs with
  | nil => simp [trimStart]
  | cons c cs ih =>
    rw [trimStart] at ih ⊢
    by_cases hc : isBlank c = true
    · rw [List.dropWhile_cons_of_pos hc, ih, List.forall_mem_cons, and_iff_right hc]
    · simp [List.dropWhile_cons_of_neg hc, hc]

/-- Nothing is left of a text by trimming if all of it is blank. -/
theorem trim_eq_nil_iff {cs : List Char} : trim cs = [] ↔ ∀ c ∈ cs, isBlank c = true := by
  rw [← trimStart_eq_nil_iff, trim, trimEnd, List.reverse_eq_nil_iff, trimStart_eq_nil_iff]
  cases hrest : trimStart cs with
  | nil => simp
  | cons c rest =>
    have hc : isBlank c = false := by
      have hhead := List.head?_dropWhile_not isBlank cs
      rw [show cs.dropWhile isBlank = c :: rest from hrest] at hhead
      exact hhead
    simp [hc]

theorem trim_prefix_trimStart (cs : List Char) : trim cs <+: trimStart cs := by
  rw [← List.reverse_suffix, trim, trimEnd, List.reverse_reverse]
  exact List.dropWhile_suffix _

/-- Trimming takes something off the ends and nothing else. -/
theorem trim_infix (cs : List Char) : trim cs <:+: cs :=
  (trim_prefix_trimStart cs).isInfix.trans (List.dropWhile_suffix _).isInfix

theorem isBlank_of_head?_trim {cs : List Char} {c : Char} (h : (trim cs).head? = some c) :
    isBlank c = false := by
  obtain ⟨rest, hrest⟩ := List.head?_eq_some_iff.1 h
  have hstart : (trimStart cs).head? = some c := by
    obtain ⟨back, hback⟩ := trim_prefix_trimStart cs
    rw [← hback, hrest, List.cons_append, List.head?_cons]
  have hnot := List.head?_dropWhile_not isBlank cs
  rw [show (cs.dropWhile isBlank).head? = some c from hstart] at hnot
  exact hnot

theorem isBlank_of_getLast?_trim {cs : List Char} {c : Char} (h : (trim cs).getLast? = some c) :
    isBlank c = false := by
  rw [trim, trimEnd, List.getLast?_reverse, trimStart] at h
  have hnot := List.head?_dropWhile_not isBlank (trimStart cs).reverse
  rw [h] at hnot
  exact hnot

theorem filter_trimStart (cs : List Char) :
    (trimStart cs).filter (!isBlank ·) = cs.filter (!isBlank ·) := by
  induction cs with
  | nil => rfl
  | cons c cs ih =>
    rw [trimStart] at ih ⊢
    by_cases hc : isBlank c = true
    · rw [List.dropWhile_cons_of_pos hc, ih, List.filter_cons_of_neg (by simp [hc])]
    · rw [List.dropWhile_cons_of_neg hc]

/-- Trimming takes off blanks only. -/
theorem filter_trim (cs : List Char) : (trim cs).filter (!isBlank ·) = cs.filter (!isBlank ·) := by
  rw [trim, trimEnd, List.filter_reverse, filter_trimStart, ← List.filter_reverse,
    List.reverse_reverse, filter_trimStart]

/-- The first character that is not blank is the first one left by trimming. -/
theorem head?_trim (cs : List Char) : (trim cs).head? = (cs.filter (!isBlank ·)).head? := by
  rw [← filter_trim]
  cases htrim : trim cs with
  | nil => rfl
  | cons c rest =>
    have hc : isBlank c = false := isBlank_of_head?_trim (by rw [htrim, List.head?_cons])
    rw [List.filter_cons_of_pos (by simp [hc]), List.head?_cons, List.head?_cons]

theorem getLast?_trim (cs : List Char) :
    (trim cs).getLast? = (cs.filter (!isBlank ·)).getLast? := by
  rw [← filter_trim]
  rcases List.eq_nil_or_concat (trim cs) with htrim | ⟨front, c, htrim⟩
  · rw [htrim, List.filter_nil]
  · have hc : isBlank c = false := isBlank_of_getLast?_trim (by rw [htrim]; simp)
    simp [htrim, hc]

theorem trimStart_append {front : List Char} (h : trimStart front ≠ []) (back : List Char) :
    trimStart (front ++ back) = trimStart front ++ back := by
  rw [trimStart, List.dropWhile_append, if_neg (by simpa [trimStart] using h)]
  rfl

theorem trim_concat {c : Char} (hc : isBlank c = true) (cs : List Char) :
    trim (cs ++ [c]) = trim cs := by
  have hend (cs : List Char) : trimEnd (cs ++ [c]) = trimEnd cs := by
    rw [trimEnd, List.reverse_append, List.reverse_singleton, List.singleton_append, trimStart,
      List.dropWhile_cons_of_pos hc]
    rfl
  by_cases hcs : trimStart cs = []
  · have hblank : trim (cs ++ [c]) = [] := by
      rw [trim_eq_nil_iff, List.forall_mem_append]
      exact ⟨trimStart_eq_nil_iff.1 hcs, by simpa using hc⟩
    rw [hblank, eq_comm, trim_eq_nil_iff]
    exact trimStart_eq_nil_iff.1 hcs
  · rw [trim, trimStart_append hcs, hend, trim]

/-- A string without its blank ends. -/
def strip (s : String) : String :=
  String.ofList (trim s.toList)

end Courier.Text
