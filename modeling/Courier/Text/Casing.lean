/-! Comparing words without their letter case.

The words compared here (methods, directories, kinds of random values) are ASCII. A
letter outside ASCII can still meet one of them, for a handful of letters map to ASCII
ones: those are listed, and every other letter outside ASCII is left as it is, because
its case mapping is never ASCII either. -/

namespace Courier.Text

/-- The upper case of a letter, as far as it is ASCII. -/
def upperChar (c : Char) : List Char :=
  match c with
  | 'ß' => ['S', 'S']
  | 'ı' => ['I']
  | 'ſ' => ['S']
  | 'ﬀ' => ['F', 'F']
  | 'ﬁ' => ['F', 'I']
  | 'ﬂ' => ['F', 'L']
  | 'ﬃ' => ['F', 'F', 'I']
  | 'ﬄ' => ['F', 'F', 'L']
  | 'ﬅ' => ['S', 'T']
  | 'ﬆ' => ['S', 'T']
  | c => [c.toUpper]

/-- The lower case of a letter, as far as it is ASCII: the Kelvin sign is the one
letter outside ASCII whose lower case is an ASCII letter. -/
def lowerChar (c : Char) : Char :=
  if c = '\u212a' then 'k' else c.toLower

/-- A string with its letters in upper case. -/
def upper (s : String) : String :=
  String.ofList (s.toList.flatMap upperChar)

/-- A string with its letters in lower case. -/
def lower (s : String) : String :=
  String.ofList (s.toList.map lowerChar)

/-- Equality up to the case of ASCII letters. -/
def sameIgnoringCase (s t : String) : Bool :=
  s.toList.map Char.toLower == t.toList.map Char.toLower

/-- The case of an ASCII letter makes no difference to its upper case. -/
theorem upperChar_toLower (c : Char) : upperChar c.toLower = upperChar c := by
  have hletters : ∀ n < 26, upperChar (Char.ofNat (0x41 + n)).toLower =
      upperChar (Char.ofNat (0x41 + n)) := by
    decide
  by_cases hc : c.val ≥ 'A'.val ∧ c.val ≤ 'Z'.val
  · obtain ⟨n, hn, hletter⟩ : ∃ n < 26, c = Char.ofNat (0x41 + n) := by
      have hfirst : 0x41 ≤ c.toNat := UInt32.le_iff_toNat_le.1 hc.1
      have hlast : c.toNat ≤ 0x5A := UInt32.le_iff_toNat_le.1 hc.2
      refine ⟨c.toNat - 0x41, by omega, ?_⟩
      rw [Nat.add_sub_cancel' hfirst, Char.ofNat_toNat]
    rw [hletter]
    exact hletters n hn
  · unfold Char.toLower
    rw [dif_neg hc]

theorem upper_eq_of_sameIgnoringCase {s t : String} (h : sameIgnoringCase s t = true) :
    upper s = upper t := by
  have hupper (s : String) : (s.toList.map Char.toLower).flatMap upperChar =
      s.toList.flatMap upperChar := by
    rw [List.flatMap_map]
    exact congrArg (List.flatMap · s.toList) (funext upperChar_toLower)
  have hlower : s.toList.map Char.toLower = t.toList.map Char.toLower := beq_iff_eq.1 h
  rw [upper, upper, ← hupper, hlower, hupper]

end Courier.Text
