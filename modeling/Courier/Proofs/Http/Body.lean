import Courier.Http.Request
import Courier.Proofs.Json.Brackets

/-! Bodies that look like JSON.

A text looks like an array or an object by its first and its last character, which trimming makes
the first and the last that are not blank (`looksLikeJson_trim_congr`). Every text that writes an
array or an object looks like one, whatever blanks stand around it (`looksLikeJson_of_parse?`). -/

namespace Courier.Http

theorem two_le_length {cs : List Char} {first last : Char} (hfirst : cs.head? = some first)
    (hlast : cs.getLast? = some last) (hne : first ≠ last) : 2 ≤ cs.length := by
  match cs with
  | [] => cases hfirst
  | [c] =>
    cases hfirst
    cases hlast
    exact absurd rfl hne
  | c :: d :: rest => simp

theorem looksLikeJson_iff {cs : List Char} : looksLikeJson cs = true ↔
    (cs.head? = some '{' ∧ cs.getLast? = some '}') ∨
      (cs.head? = some '[' ∧ cs.getLast? = some ']') := by
  simp only [looksLikeJson, Bool.and_eq_true, Bool.or_eq_true, decide_eq_true_eq]
  refine and_iff_right_of_imp ?_
  rintro (⟨hfirst, hlast⟩ | ⟨hfirst, hlast⟩) <;> exact two_le_length hfirst hlast (by decide)

/-- Only the first and the last character that are not blank count. -/
theorem looksLikeJson_trim_congr {cs ds : List Char}
    (hfirst : (cs.filter (!Text.isBlank ·)).head? = (ds.filter (!Text.isBlank ·)).head?)
    (hlast : (cs.filter (!Text.isBlank ·)).getLast? = (ds.filter (!Text.isBlank ·)).getLast?) :
    looksLikeJson (Text.trim cs) = looksLikeJson (Text.trim ds) := by
  rw [Bool.eq_iff_iff, looksLikeJson_iff, looksLikeJson_iff]
  simp only [Text.head?_trim, Text.getLast?_trim, hfirst, hlast]

/-- An array or an object looks like one, once its blank ends are gone. -/
theorem looksLikeJson_of_parse? {text : String} {document : Json.Document}
    {container : Json.Container} (h : Json.Document.parse? text = some document)
    (hdocument : document.container? = some container) :
    looksLikeJson (Text.trim text.toList) = true := by
  have hfilter : (text.toList.filter (!Json.Token.isSpace ·)).filter (!Text.isBlank ·) =
      text.toList.filter (!Text.isBlank ·) := by
    rw [List.filter_filter]
    refine List.filter_congr fun c _ => ?_
    cases hc : Json.Token.isSpace c with
    | true => simp [Json.Token.isBlank_of_isSpace hc]
    | false => simp
  obtain ⟨hfirst, hlast⟩ := Json.brackets_of_parse? h hdocument
  have hends {first last : Char}
      (hfirst : (text.toList.filter (!Json.Token.isSpace ·)).head? = some first)
      (hlast : (text.toList.filter (!Json.Token.isSpace ·)).getLast? = some last)
      (hfirst' : Text.isBlank first = false) (hlast' : Text.isBlank last = false) :
      (Text.trim text.toList).head? = some first ∧
        (Text.trim text.toList).getLast? = some last := by
    rw [Text.head?_trim, Text.getLast?_trim, ← hfilter]
    constructor
    · obtain ⟨rest, hrest⟩ := List.head?_eq_some_iff.1 hfirst
      rw [hrest, List.filter_cons_of_pos (by simp [hfirst']), List.head?_cons]
    · obtain ⟨front, hfront⟩ := List.getLast?_eq_some_iff.1 hlast
      rw [hfront, List.filter_append, List.filter_cons_of_pos (by simp [hlast']), List.filter_nil,
        List.getLast?_concat]
  rw [looksLikeJson_iff]
  cases container with
  | array => exact .inr (hends hfirst hlast (by decide) (by decide))
  | object => exact .inl (hends hfirst hlast (by decide) (by decide))

end Courier.Http
