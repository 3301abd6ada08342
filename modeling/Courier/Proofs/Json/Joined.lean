import Courier.Proofs.Json.Path

/-! Paths joined by a dot.

Any text is a path, and what brackets are open in front of a dot does not matter behind it: the
segments of a joined path are those of its two parts (`segments_append_dot`). Following segments
composes (`follow?_append`), so a joined path leads where its second part leads from where the first
one has led (`get?_append_dot`). Only a part without segments makes an exception, for alone it would
lead nowhere, and in a joined path it does nothing. -/

namespace Courier.Json

namespace Path

/-! ### Segments -/

theorem bracketed_ne_nil (inner : List Char) : bracketed ('[' :: inner) ≠ [] := by
  rw [bracketed]
  split <;> simp

/-- A piece that is not blank has a segment, even if all of it is an open bracket. -/
theorem ofPiece_eq_nil_iff {piece : List Char} :
    ofPiece piece = [] ↔ ∀ c ∈ piece, Text.isBlank c = true := by
  rw [← Text.trim_eq_nil_iff, ofPiece]
  cases Text.trim piece with
  | nil => simp [bracketed.eq_2 [] (by simp)]
  | cons c cs =>
    by_cases hc : c = '['
    · subst hc
      simp [bracketed_ne_nil]
    · simp [hc]

theorem segments_eq_nil_iff {path : String} :
    segments path = [] ↔ ∀ c ∈ path.toList, c = '.' ∨ Text.isBlank c = true := by
  rw [← Text.forall_mem_splitOn_iff, segments, List.map_eq_nil_iff, List.flatMap_eq_nil_iff]
  simp only [ofPiece_eq_nil_iff]

theorem segments_append_dot (path rest : String) :
    segments (path ++ "." ++ rest) = segments path ++ segments rest := by
  have hsegments (path : String) : segments path = (segmentChars path.toList).map String.ofList :=
    rfl
  have hchars : (path ++ "." ++ rest).toList = path.toList ++ '.' :: rest.toList := by
    simp [String.toList_append]
  rw [hsegments, hchars, segmentChars_append_dot, List.map_append, ← hsegments, ← hsegments]

/-- A bracket that nothing closes ends with its piece, and so does what follows a closed one. -/
example : segments "a[b.c]d[e]f. .x" = ["a", "b", "c]d", "e", "x"] := by
  decide +kernel

/-! ### Descent -/

theorem follow?_append (front back : List String) (j : Json) :
    follow? (front ++ back) j = (follow? front j).bind (follow? back) := by
  induction front generalizing j with
  | nil => rfl
  | cons segment front ih =>
    rw [List.cons_append, follow?, follow?, Option.bind_assoc]
    congr 1
    funext inside
    exact ih inside

end Path

open Courier.Json.Path

theorem get?_of_segments {path : String} (h : segments path ≠ []) (j : Json) :
    j.get? path = follow? (segments path) j := by
  unfold get?
  split
  · next hnone => exact absurd hnone h
  · rfl

/-- Nothing but its segments counts of a path. -/
theorem get?_congr {path other : String} (h : segments path = segments other) (j : Json) :
    j.get? path = j.get? other := by
  rw [get?, h, get?]

/-- **Lookup composes.** A path leads on from where another one has led, if the two are joined by a
dot, and each of them has a segment. If one has none, being all dots and blanks, the joined path leads
where the other one does. -/
theorem get?_append_dot (path rest : String) (j : Json) :
    (segments path ≠ [] → segments rest ≠ [] →
        j.get? (path ++ "." ++ rest) = (j.get? path).bind (·.get? rest)) ∧
      (segments path = [] → j.get? (path ++ "." ++ rest) = j.get? rest) ∧
      (segments rest = [] → j.get? (path ++ "." ++ rest) = j.get? path) ∧
      (segments path = [] ↔ ∀ c ∈ path.toList, c = '.' ∨ Text.isBlank c = true) := by
  have hsegments : segments (path ++ "." ++ rest) = segments path ++ segments rest :=
    segments_append_dot path rest
  refine ⟨fun hpath hrest => ?_, fun hpath => ?_, fun hrest => ?_, segments_eq_nil_iff⟩
  · have hboth : segments (path ++ "." ++ rest) ≠ [] := by simp [hsegments, hpath]
    have hlook : (fun inside : Json => inside.get? rest) = follow? (segments rest) :=
      funext (get?_of_segments hrest)
    rw [get?_of_segments hboth, hsegments, follow?_append, get?_of_segments hpath, hlook]
  · exact get?_congr (by rw [hsegments, hpath, List.nil_append]) j
  · exact get?_congr (by rw [hsegments, hrest, List.append_nil]) j

end Courier.Json
