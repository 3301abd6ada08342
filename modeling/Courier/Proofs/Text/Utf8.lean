import Mathlib.Data.Nat.Basic
import Courier.Text.Utf8

/-! Reading back what UTF-8 writes.

A character of ASCII is one byte, its own number; the bytes of any other character have their
highest bit set (`utf8EncodeChar_of_ascii`, `le_of_mem_utf8EncodeChar`). The head of the bytes of a
text is its first character (`head_utf8EncodeChar`), so the lenient reader, which takes any bytes,
gives back every text that has been written (`lenient_encode`). -/

namespace Courier.Utf8

/-! ### The bytes of a character -/

theorem toNat_ofNat {n : Nat} (h : n < 256) : (UInt8.ofNat n).toNat = n := by
  rw [UInt8.toNat_ofNat', Nat.mod_eq_of_lt h]

theorem utf8EncodeChar_of_ascii {c : Char} (h : c.toNat < 0x80) :
    String.utf8EncodeChar c = [UInt8.ofNat c.toNat] := by
  have hv : c.val.toNat ≤ 0x7F := by
    have : c.val.toNat = c.toNat := rfl
    omega
  rw [String.utf8EncodeChar, if_pos hv]
  rfl

theorem le_of_mem_utf8EncodeChar {c : Char} (h : 0x80 ≤ c.toNat) {b : UInt8}
    (hb : b ∈ String.utf8EncodeChar c) : 0x80 ≤ b.toNat := by
  have hv : ¬c.val.toNat ≤ 0x7F := by
    have : c.val.toNat = c.toNat := rfl
    omega
  have htail (n : Nat) : 0x80 ≤ (UInt8.ofNat (n % 0x40 + 0x80)).toNat := by
    rw [toNat_ofNat (by omega)]
    omega
  rw [String.utf8EncodeChar, if_neg hv] at hb
  split at hb
  · simp only [List.mem_cons, List.not_mem_nil, or_false] at hb
    rcases hb with rfl | rfl
    · rw [toNat_ofNat (by omega)]
      omega
    · exact htail _
  · split at hb
    · simp only [List.mem_cons, List.not_mem_nil, or_false] at hb
      rcases hb with rfl | rfl | rfl
      · rw [toNat_ofNat (by omega)]
        omega
      · exact htail _
      · exact htail _
    · simp only [List.mem_cons, List.not_mem_nil, or_false] at hb
      rcases hb with rfl | rfl | rfl | rfl
      · rw [toNat_ofNat (by omega)]
        omega
      · exact htail _
      · exact htail _
      · exact htail _

/-! ### Reading a character -/

theorem takeUp_cons {owed taken bits low high n : Nat} (hlow : low ≤ n) (hhigh : n ≤ high)
    (hn : n < 256) (rest : List UInt8) :
    takeUp (owed + 1) taken bits low high (UInt8.ofNat n :: rest) =
      takeUp owed (taken + 1) (bits * 64 + n % 64) 0x80 0xBF rest := by
  rw [takeUp, toNat_ofNat hn, if_pos ⟨hlow, hhigh⟩]

/-- The numbers of characters: surrogates are none. -/
theorem toNat_valid (c : Char) : c.toNat < 0xD800 ∨ (0xDFFF < c.toNat ∧ c.toNat < 0x110000) :=
  c.valid

/-- The first byte of three says which second bytes make no overlong form and no surrogate. -/
theorem lead_three {v : Nat} (hlow : 0x7FF < v) (hhigh : v ≤ 0xFFFF)
    (hvalid : v < 0xD800 ∨ 0xDFFF < v) :
    ∃ low high, lead (v / 4096 % 0x10 + 0xE0) = some (2, low, high) ∧
      low ≤ v / 64 % 0x40 + 0x80 ∧ v / 64 % 0x40 + 0x80 ≤ high := by
  unfold lead
  rw [if_neg (by omega)]
  by_cases hfirst : v < 0x1000
  · exact ⟨0xA0, 0xBF, if_pos (by omega), by omega, by omega⟩
  · rw [if_neg (by omega)]
    by_cases hbefore : 0xD000 ≤ v ∧ v < 0xD800
    · exact ⟨0x80, 0x9F, if_pos (by omega), by omega, by omega⟩
    · rw [if_neg (by omega), if_pos (by omega)]
      exact ⟨0x80, 0xBF, rfl, by omega, by omega⟩

/-- The first byte of four says which second bytes make no overlong form and nothing above the last
code point. -/
theorem lead_four {v : Nat} (hlow : 0xFFFF < v) (hhigh : v < 0x110000) :
    ∃ low high, lead (v / 262144 % 0x08 + 0xF0) = some (3, low, high) ∧
      low ≤ v / 4096 % 0x40 + 0x80 ∧ v / 4096 % 0x40 + 0x80 ≤ high := by
  unfold lead
  rw [if_neg (by omega), if_neg (by omega), if_neg (by omega), if_neg (by omega)]
  by_cases hfirst : v < 0x40000
  · exact ⟨0x90, 0xBF, if_pos (by omega), by omega, by omega⟩
  · rw [if_neg (by omega)]
    by_cases hmiddle : v < 0x100000
    · exact ⟨0x80, 0xBF, if_pos (by omega), by omega, by omega⟩
    · rw [if_neg (by omega), if_pos (by omega)]
      exact ⟨0x80, 0x8F, rfl, by omega, by omega⟩

/-- **The head of the bytes of a character is the character**, whatever follows. -/
theorem head_utf8EncodeChar (c : Char) (rest : List UInt8) :
    ∃ b bs, String.utf8EncodeChar c = b :: bs ∧ head b (bs ++ rest) = .char c := by
  obtain ⟨v, hv⟩ : ∃ v, c.val.toNat = v := ⟨_, rfl⟩
  have hvalid : v < 0xD800 ∨ (0xDFFF < v ∧ v < 0x110000) := hv ▸ toNat_valid c
  have hchar {n : Nat} (hn : n = v) : Head.char (Char.ofNat n) = .char c := by
    rw [hn, ← hv]
    exact congrArg Head.char (Char.ofNat_toNat c)
  have hfive : Nat.pow 2 (6 - 1) = 32 := rfl
  have hfour : Nat.pow 2 (6 - 2) = 16 := rfl
  have hthree : Nat.pow 2 (6 - 3) = 8 := rfl
  unfold String.utf8EncodeChar
  simp only [hv]
  split
  · refine ⟨_, _, rfl, ?_⟩
    rw [head, toNat_ofNat (by omega), if_pos (by omega), hchar rfl]
  · split
    · refine ⟨_, _, rfl, ?_⟩
      have hlead : lead (v / 64 % 0x20 + 0xC0) = some (1, 0x80, 0xBF) := if_pos (by omega)
      rw [head, toNat_ofNat (by omega), if_neg (by omega), hlead]
      simp only [List.cons_append, List.nil_append]
      rw [takeUp_cons (by omega) (by omega) (by omega), takeUp, hfive, hchar (by omega)]
    · split
      · refine ⟨_, _, rfl, ?_⟩
        obtain ⟨low, high, hlead, hlow, hhigh⟩ :=
          lead_three (v := v) (by omega) (by omega) (by omega)
        rw [head, toNat_ofNat (by omega), if_neg (by omega), hlead]
        simp only [List.cons_append, List.nil_append]
        rw [takeUp_cons hlow hhigh (by omega), takeUp_cons (by omega) (by omega) (by omega), takeUp,
          hfour, hchar (by omega)]
      · refine ⟨_, _, rfl, ?_⟩
        obtain ⟨low, high, hlead, hlow, hhigh⟩ := lead_four (v := v) (by omega) (by omega)
        rw [head, toNat_ofNat (by omega), if_neg (by omega), hlead]
        simp only [List.cons_append, List.nil_append]
        rw [takeUp_cons hlow hhigh (by omega), takeUp_cons (by omega) (by omega) (by omega),
          takeUp_cons (by omega) (by omega) (by omega), takeUp, hthree, hchar (by omega)]

/-- **What is written is read back**, also by the reader that takes any bytes. -/
theorem lenient_encode (cs : List Char) : lenient (encode cs) = cs := by
  induction cs with
  | nil => rw [encode, List.flatMap_nil, lenient]
  | cons c cs ih =>
    obtain ⟨b, bs, hbytes, hhead⟩ := head_utf8EncodeChar c (encode cs)
    have hlength : bs.length = c.utf8Size - 1 := by
      rw [← String.length_utf8EncodeChar, hbytes]
      rfl
    have hencode : encode (c :: cs) = b :: (bs ++ encode cs) := by
      rw [encode, List.flatMap_cons, hbytes]
      rfl
    rw [hencode, lenient, hhead]
    show c :: lenient ((bs ++ encode cs).drop (c.utf8Size - 1)) = _
    rw [← hlength, List.drop_left, ih]

end Courier.Utf8
