import Courier.Proofs.Url.Percent

/-! Queries and the pairs in them.

An encoded text is read back as a name or a value (`decode_encode`), and so is a text that has
neither plus signs nor escapes (`decode_eq_self`). Pairs that are joined with ampersands are read
one by one (`pairs_intercalate`), behind those that stand there already (`pairs_append`). -/

namespace Courier.Url

namespace Query

theorem map_plus_eq_self {cs : List Char} (h : '+' ∉ cs) :
    cs.map (fun c => if c = '+' then ' ' else c) = cs := by
  induction cs with
  | nil => rfl
  | cons c cs ih =>
    simp only [List.mem_cons, not_or] at h
    rw [List.map_cons, if_neg (Ne.symm h.1), ih h.2]

/-- **An encoded text is read back**, if percent and plus signs are encoded. -/
theorem decode_encode {keep : Char → Bool} (hpercent : keep '%' = false) (hplus : keep '+' = false)
    (s : String) : decode (Percent.encode keep s.toList) = s := by
  have hnone : '+' ∉ Percent.encode keep s.toList := by
    have hne : ∀ c ∈ Percent.encode keep s.toList, c ≠ '+' :=
      Percent.forall_mem_encode (fun c hc => Text.ne_of_class hc hplus) (by decide) (by decide)
        s.toList
    exact fun hmem => hne '+' hmem rfl
  rw [decode, map_plus_eq_self hnone, Percent.decode_encode hpercent, Utf8.decodeLossy,
    Utf8.lenient_encode, String.ofList_toList]

/-- **A text that has neither plus signs nor escapes means itself.** -/
theorem decode_eq_self {s : String} (hplus : '+' ∉ s.toList) (h : Percent.Unescaped s.toList) :
    decode s.toList = s := by
  rw [decode, map_plus_eq_self hplus, Percent.decode_of_unescaped h, Utf8.decodeLossy,
    Utf8.lenient_encode, String.ofList_toList]

/-! ### Pairs -/

theorem pairs_append (a b : List Char) : pairs (a ++ '&' :: b) = pairs a ++ pairs b := by
  simp only [pairs, Text.splitOn_eq, List.splitOn_append_cons_self, List.filter_append,
    List.map_append]

theorem pairs_intercalate {pieces : List (List Char)} (hmark : ∀ piece ∈ pieces, '&' ∉ piece)
    (hempty : ∀ piece ∈ pieces, piece ≠ []) :
    pairs (['&'].intercalate pieces) = pieces.map pair := by
  by_cases hne : pieces = []
  · subst hne
    rfl
  · rw [pairs, Text.splitOn_intercalate hmark hne,
      List.filter_eq_self.2 (by simpa using hempty)]

theorem pair_of_mark {name : List Char} (h : '=' ∉ name) (value : List Char) :
    pair (name ++ '=' :: value) = (decode name, decode value) := by
  rw [pair, Text.cut?_append_cons h]

end Query

end Courier.Url
