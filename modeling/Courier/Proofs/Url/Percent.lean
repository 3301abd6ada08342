import Mathlib.Data.List.Infix
import Courier.Url.Percent
import Courier.Proofs.Text.Utf8

/-! Percent encoding, read back.

Decoding works on bytes, and only the percent sign has its byte, so what is encoded is read back,
whatever characters it has (`decode_encode`). A text without escapes means itself
(`decode_of_unescaped`). -/

namespace Courier.Url.Percent

/-- What holds of the characters that are kept, the percent sign and the digits holds of all that is
written. -/
theorem forall_mem_encode {p : Char → Prop} {keep : Char → Bool} (hkeep : ∀ c, keep c = true → p c)
    (hpercent : p '%') (hdigit : ∀ d < 16, p (digit d)) (cs : List Char) :
    ∀ c ∈ encode keep cs, p c := by
  intro c hc
  obtain ⟨d, -, hc⟩ := List.mem_flatMap.1 hc
  split at hc
  · next hd =>
    rw [List.mem_singleton.1 hc]
    exact hkeep d hd
  · obtain ⟨b, -, hc⟩ := List.mem_flatMap.1 hc
    have hb := b.toNat_lt
    simp only [byte, List.mem_cons, List.not_mem_nil, or_false] at hc
    rcases hc with rfl | rfl | rfl
    · exact hpercent
    · exact hdigit _ (by omega)
    · exact hdigit _ (by omega)

/-! ### Percent signs in bytes -/

theorem decode_cons_of_ne {b : UInt8} (hb : b ≠ 0x25) (rest : List UInt8) :
    decode (b :: rest) = b :: decode rest := by
  rw [decode]
  rintro x y more rfl -
  exact hb rfl

theorem decode_append_of_notMem {bs : List UInt8} (h : 0x25 ∉ bs) (rest : List UInt8) :
    decode (bs ++ rest) = bs ++ decode rest := by
  induction bs with
  | nil => rfl
  | cons b bs ih =>
    simp only [List.mem_cons, not_or] at h
    rw [List.cons_append, decode_cons_of_ne (Ne.symm h.1), ih h.2, List.cons_append]

/-- Only the percent sign has its byte. -/
theorem percent_notMem_utf8EncodeChar {c : Char} (h : c ≠ '%') :
    0x25 ∉ String.utf8EncodeChar c := by
  intro hmem
  by_cases hascii : c.toNat < 0x80
  · rw [Utf8.utf8EncodeChar_of_ascii hascii, List.mem_singleton] at hmem
    have hnat := congrArg UInt8.toNat hmem
    rw [Utf8.toNat_ofNat (by omega)] at hnat
    exact h (Char.toNat_inj.1 hnat.symm)
  · have hle := Utf8.le_of_mem_utf8EncodeChar (Nat.le_of_not_lt hascii) hmem
    exact absurd hle (by decide)

theorem value?_digit : ∀ n < 16,
    value? (UInt8.ofNat (digit n).toNat) = some n := by decide

theorem encode_byte (b : UInt8) : Utf8.encode (byte b) =
    [0x25, UInt8.ofNat (digit (b.toNat / 16)).toNat,
      UInt8.ofNat (digit (b.toNat % 16)).toNat] := by
  have hdigit : ∀ n < 16, String.utf8EncodeChar (digit n) =
      [UInt8.ofNat (digit n).toNat] := by decide
  have hb := b.toNat_lt
  simp only [Utf8.encode, byte, List.flatMap_cons, List.flatMap_nil,
    hdigit _ (show b.toNat / 16 < 16 by omega), hdigit _ (show b.toNat % 16 < 16 by omega)]
  rfl

/-- A byte is read back from its percent sign and digits. -/
theorem decode_byte (b : UInt8) (rest : List UInt8) :
    decode (Utf8.encode (byte b) ++ rest) = b :: decode rest := by
  have hb := b.toNat_lt
  have hvalue : UInt8.ofNat (b.toNat / 16 * 16 + b.toNat % 16) = b := by
    rw [show b.toNat / 16 * 16 + b.toNat % 16 = b.toNat by omega, UInt8.ofNat_toNat]
  rw [encode_byte, List.cons_append, List.cons_append, List.cons_append, List.nil_append,
    decode, value?_digit _ (by omega), value?_digit _ (by omega)]
  simp only [hvalue]

theorem decode_bytes (bs rest : List UInt8) :
    decode (Utf8.encode (bs.flatMap byte) ++ rest) = bs ++ decode rest := by
  induction bs with
  | nil => rfl
  | cons b bs ih =>
    rw [List.flatMap_cons, Utf8.encode_append, List.append_assoc, decode_byte, ih, List.cons_append]

/-- **What is encoded is read back**, if percent signs are. -/
theorem decode_encode {keep : Char → Bool} (hkeep : keep '%' = false) (cs : List Char) :
    decode (Utf8.encode (encode keep cs)) = Utf8.encode cs := by
  induction cs with
  | nil => rfl
  | cons c cs ih =>
    have hcons : Utf8.encode (c :: cs) = String.utf8EncodeChar c ++ Utf8.encode cs :=
      List.flatMap_cons ..
    rw [encode, List.flatMap_cons, ← encode, Utf8.encode_append, hcons]
    split
    · next hc =>
      have hne : c ≠ '%' := by
        rintro rfl
        rw [hkeep] at hc
        cases hc
      have hone : Utf8.encode [c] = String.utf8EncodeChar c := by simp [Utf8.encode]
      rw [hone, decode_append_of_notMem (percent_notMem_utf8EncodeChar hne), ih]
    · rw [decode_bytes, ih]

/-! ### Texts without escapes -/

/-- No percent sign stands before two hexadecimal digits. -/
def Unescaped (cs : List Char) : Prop :=
  ∀ a b, (Hex.value? a).isSome = true → (Hex.value? b).isSome = true → ¬['%', a, b] <:+: cs

theorem Unescaped.tail {c : Char} {cs : List Char} (h : Unescaped (c :: cs)) : Unescaped cs :=
  fun a b ha hb hmark => h a b ha hb (hmark.trans (List.suffix_cons c cs).isInfix)

theorem unescaped_of_notMem {cs : List Char} (h : '%' ∉ cs) : Unescaped cs :=
  fun _ _ _ _ hmark => h (hmark.subset List.mem_cons_self)

theorem value?_of_le (b : UInt8) (h : 0x80 ≤ b.toNat) : value? b = none := by
  have hnone : ∀ n < 256, 0x80 ≤ n → Hex.value? (Char.ofNat n) = none := by
    decide +kernel
  exact hnone b.toNat b.toNat_lt h

/-- The first byte of a text is a digit only where the first character is. -/
theorem digit_of_value? {cs : List Char} {b : UInt8} {bs : List UInt8}
    (h : Utf8.encode cs = b :: bs) (hb : (value? b).isSome = true) :
    ∃ c rest, cs = c :: rest ∧ (Hex.value? c).isSome = true ∧ Utf8.encode rest = bs := by
  cases cs with
  | nil => cases h
  | cons c rest =>
    have hcons : String.utf8EncodeChar c ++ Utf8.encode rest = b :: bs := h
    by_cases hascii : c.toNat < 0x80
    · rw [Utf8.utf8EncodeChar_of_ascii hascii, List.cons_append, List.nil_append] at hcons
      obtain ⟨rfl, rfl⟩ := List.cons.inj hcons
      refine ⟨c, rest, rfl, ?_, rfl⟩
      rwa [value?, Utf8.toNat_ofNat (by omega), Char.ofNat_toNat] at hb
    · obtain ⟨x, xs, hx⟩ := List.exists_cons_of_ne_nil (String.utf8EncodeChar_ne_nil (c := c))
      rw [hx, List.cons_append] at hcons
      have hle := Utf8.le_of_mem_utf8EncodeChar (Nat.le_of_not_lt hascii)
        (hx ▸ List.mem_cons_self : x ∈ String.utf8EncodeChar c)
      rw [← (List.cons.inj hcons).1, value?_of_le x hle] at hb
      cases hb

/-- **A text without escapes means itself.** -/
theorem decode_of_unescaped {cs : List Char} (h : Unescaped cs) :
    decode (Utf8.encode cs) = Utf8.encode cs := by
  induction cs with
  | nil => rfl
  | cons c cs ih =>
    have hcons : Utf8.encode (c :: cs) = String.utf8EncodeChar c ++ Utf8.encode cs :=
      List.flatMap_cons ..
    by_cases hc : c = '%'
    · subst hc
      have htail : decode (Utf8.encode cs) = Utf8.encode cs := ih h.tail
      show decode (0x25 :: Utf8.encode cs) = 0x25 :: Utf8.encode cs
      match hbytes : Utf8.encode cs with
      | [] => rfl
      | [x] =>
        rw [hbytes] at htail
        exact congrArg (0x25 :: ·) htail
      | x :: y :: rest =>
        rw [decode, ← hbytes, htail]
        split
        · next high low hx hy =>
          obtain ⟨a, as, rfl, ha, has⟩ := digit_of_value? hbytes (by simp [hx])
          obtain ⟨b, bs, rfl, hb, -⟩ := digit_of_value? has (by simp [hy])
          have hhead : ['%', a, b] <+: '%' :: a :: b :: bs := ⟨bs, rfl⟩
          exact absurd hhead.isInfix (h a b ha hb)
        · rfl
    · rw [hcons, decode_append_of_notMem (percent_notMem_utf8EncodeChar hc), ih h.tail]

end Courier.Url.Percent
