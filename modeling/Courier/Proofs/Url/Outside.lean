import Mathlib.Data.List.TakeWhile
import Courier.Url.Basic
import Courier.Proofs.Url.Parts

/-! The outside of a URL.

Cleaning takes what is invisible off both ends of a text, and tabs and line ends out of it
(`clean_eq`, `clean_append_visible`). Marks then cut the text, the latest part first, so what stands
before the first colon of a URL is its scheme (`scheme_of_parse?`). -/

namespace Courier.Url

/-! ### Cleaning -/

/-- Whether a character is cut off the ends of a URL. -/
def isEdge (c : Char) : Bool :=
  c.toNat ≤ 0x20

/-- Whether a character may stand within a URL: the others are taken out of it. -/
def isKept (c : Char) : Bool :=
  c ≠ '\t' && c ≠ '\n' && c ≠ '\x0d'

theorem isKept_of_isEdge {c : Char} (h : isEdge c = false) : isKept c = true := by
  have hne (d : Char) (hd : isEdge d = true) : c ≠ d := (Text.ne_of_class hd h).symm
  simp [isKept, hne '\t' (by decide), hne '\n' (by decide), hne '\x0d' (by decide)]

theorem isEdge_of_isOuter {c : Char} (h : isOuter c = true) : isEdge c = false := by
  simp only [isOuter, Bool.and_eq_true, decide_eq_true_eq] at h
  simpa [isEdge] using h.1.1

/-- The last character that may stand within a URL, if there is one, is visible. -/
def EndsVisibly (cs : List Char) : Prop :=
  ∀ c, (cs.filter isKept).getLast? = some c → isEdge c = false

theorem EndsVisibly.of_forall {cs : List Char} (h : ∀ c ∈ cs, isEdge c = false) :
    EndsVisibly cs :=
  fun c hc => h c (List.mem_filter.1 (List.mem_of_getLast? hc)).1

theorem EndsVisibly.suffix {front back : List Char} (h : EndsVisibly (front ++ back)) :
    EndsVisibly back := by
  intro c hc
  apply h
  rw [List.filter_append, List.getLast?_append, hc]
  rfl

theorem mem_of_mem_clean {cs : List Char} {c : Char} (h : c ∈ clean cs) : c ∈ cs := by
  have hcut : c ∈ ((cs.dropWhile isEdge).reverse.dropWhile isEdge).reverse := (List.mem_filter.1 h).1
  rw [List.mem_reverse] at hcut
  have hstart : c ∈ (cs.dropWhile isEdge).reverse := (List.dropWhile_sublist isEdge).mem hcut
  exact (List.dropWhile_sublist isEdge).mem (List.mem_reverse.1 hstart)

/-- A text without what is cut off its start, and what is taken out of it. -/
def cleanStart (cs : List Char) : List Char :=
  (cs.dropWhile isEdge).filter isKept

theorem mem_of_mem_cleanStart {cs : List Char} {c : Char} (h : c ∈ cleanStart cs) : c ∈ cs :=
  (List.dropWhile_sublist isEdge).mem (List.mem_filter.1 h).1

theorem mem_cleanStart {cs : List Char} {c : Char} (h : c ∈ cs) (hc : isEdge c = false) :
    c ∈ cleanStart cs := by
  have hfront : c ∉ cs.takeWhile isEdge :=
    Text.notMem_of_class (fun _ => List.mem_takeWhile_imp) hc
  rw [← List.takeWhile_append_dropWhile (p := isEdge) (l := cs), List.mem_append] at h
  exact List.mem_filter.2 ⟨h.resolve_left hfront, isKept_of_isEdge hc⟩

/-- What is cut off a visible end would be taken out in any case. -/
theorem filter_cutEnd {cs : List Char} (h : EndsVisibly cs) :
    (cs.reverse.dropWhile isEdge).reverse.filter isKept = cs.filter isKept := by
  have hsplit : cs.filter isKept = (cs.reverse.dropWhile isEdge).reverse.filter isKept ++
      ((cs.reverse.takeWhile isEdge).filter isKept).reverse := by
    rw [← List.filter_reverse, ← List.filter_append, ← List.reverse_append,
      List.takeWhile_append_dropWhile, List.reverse_reverse]
  have hcut : (cs.reverse.takeWhile isEdge).filter isKept = [] := by
    cases hedges : (cs.reverse.takeWhile isEdge).filter isKept with
    | nil => rfl
    | cons c rest =>
      have hmem : c ∈ cs.reverse.takeWhile isEdge :=
        (List.mem_filter.1 (hedges ▸ List.mem_cons_self)).1
      have hlast : (cs.filter isKept).getLast? = some c := by
        rw [hsplit, hedges]
        simp
      have hedge : isEdge c = true := List.mem_takeWhile_imp hmem
      rw [h c hlast] at hedge
      cases hedge
  rw [hsplit, hcut, List.reverse_nil, List.append_nil]

/-- From a visible end nothing is cut off but what would be taken out. -/
theorem clean_eq {cs : List Char} (h : EndsVisibly cs) : clean cs = cleanStart cs := by
  rw [← List.takeWhile_append_dropWhile (p := isEdge) (l := cs)] at h
  exact filter_cutEnd h.suffix

theorem dropWhile_isEdge {cs : List Char} (h : ∀ c ∈ cs, isEdge c = false) :
    cs.dropWhile isEdge = cs := by
  cases cs with
  | nil => rfl
  | cons c cs => exact List.dropWhile_cons_of_neg (by simp [h c List.mem_cons_self])

/-- What stands visibly at the start stays. -/
theorem clean_append_visible {front : List Char} (hfront : ∀ c ∈ front, isEdge c = false)
    (hne : front ≠ []) (back : List Char) : ∃ more, clean (front ++ back) = front ++ more := by
  have hstart : (front ++ back).dropWhile isEdge = front ++ back := by
    rw [List.dropWhile_append, dropWhile_isEdge hfront, if_neg (by simpa using hne)]
  have hend : ∃ more, ((front ++ back).reverse.dropWhile isEdge).reverse = front ++ more := by
    rw [List.reverse_append, List.dropWhile_append]
    split
    · refine ⟨[], ?_⟩
      rw [dropWhile_isEdge fun c hc => hfront c (List.mem_reverse.1 hc), List.reverse_reverse,
        List.append_nil]
    · refine ⟨(back.reverse.dropWhile isEdge).reverse, ?_⟩
      rw [List.reverse_append, List.reverse_reverse]
  obtain ⟨more, hmore⟩ := hend
  refine ⟨more.filter isKept, ?_⟩
  show (((front ++ back).dropWhile isEdge).reverse.dropWhile isEdge).reverse.filter isKept = _
  rw [hstart, hmore, List.filter_append,
    List.filter_eq_self.2 fun c hc => isKept_of_isEdge (hfront c hc)]

/-! ### Cutting -/

theorem cutOff_of_notMem {mark : Char} {cs : List Char} (h : mark ∉ cs) :
    cutOff mark cs = (cs, none) := by
  rw [cutOff, Text.cut?_eq_none h]

theorem cutOff_append_cons {mark : Char} {front : List Char} (h : mark ∉ front)
    (back : List Char) : cutOff mark (front ++ mark :: back) = (front, some back) := by
  rw [cutOff, Text.cut?_append_cons h]

theorem cutOff_append {mark : Char} {front : List Char} (h : mark ∉ front) (back : List Char) :
    ∃ more, (cutOff mark (front ++ back)).1 = front ++ more := by
  by_cases hback : mark ∈ back
  · obtain ⟨more, rest, rfl, hmore⟩ := List.eq_append_cons_of_mem hback
    refine ⟨more, ?_⟩
    rw [← List.append_assoc, cutOff_append_cons (by simp [h, hmore])]
  · refine ⟨back, ?_⟩
    rw [cutOff_of_notMem (by simp [h, hback])]

/-! ### Schemes -/

theorem cutScheme?_eq_some {name rest : List Char} (h : ':' ∉ name)
    {parts : List Char × List Char} (hparts : cutScheme? (name ++ ':' :: rest) = some parts) :
    parts.1 = name.map Char.toLower ∧
      ∀ c ∈ name, c.isAlphanum = true ∨ c = '+' ∨ c = '-' ∨ c = '.' := by
  rw [cutScheme?, Text.cut?_append_cons h] at hparts
  dsimp only at hparts
  split at hparts
  · next hname =>
    cases hparts
    simp only [Bool.and_eq_true, List.all_eq_true, Bool.or_eq_true, decide_eq_true_eq,
      or_assoc] at hname
    exact ⟨rfl, hname.2⟩
  · cases hparts

/-- The scheme of a URL stands before the first colon, and has no characters but those of schemes. -/
theorem scheme_of_parse? {name : List Char} (hvisible : ∀ c ∈ name, isEdge c = false)
    (hmarks : ':' ∉ name ∧ '?' ∉ name ∧ '#' ∉ name) {rest : List Char} {u : Url}
    (h : parse? (name ++ ':' :: rest) = some u) : u.scheme = name.map Char.toLower ∧
      ∀ c ∈ name, c.isAlphanum = true ∨ c = '+' ∨ c = '-' ∨ c = '.' := by
  obtain ⟨hcolon, hquery, hfragment⟩ := hmarks
  have hfront : ∀ c ∈ name ++ [':'], isEdge c = false :=
    List.forall_mem_append.2 ⟨hvisible, List.forall_mem_singleton.2 (by decide)⟩
  obtain ⟨cleaned, hcleaned⟩ := clean_append_visible hfront (by simp) rest
  obtain ⟨front, hfront⟩ := cutOff_append (show '#' ∉ name ++ [':'] by simp [hfragment]) cleaned
  obtain ⟨inner, hinner⟩ := cutOff_append (show '?' ∉ name ++ [':'] by simp [hquery]) front
  have htext : name ++ ':' :: rest = name ++ [':'] ++ rest := by simp
  rw [htext] at h
  simp only [parse?, hcleaned, hfront, hinner] at h
  split at h
  · cases h
  · next scheme body hcut =>
    rw [assemble?_eq_map] at h
    obtain ⟨bare, -, rfl⟩ := Option.map_eq_some_iff.1 h
    rw [List.append_assoc, List.singleton_append] at hcut
    exact cutScheme?_eq_some hcolon hcut

end Courier.Url
