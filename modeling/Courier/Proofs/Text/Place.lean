import Courier.Text.Utf8

/-! Places in a text.

A place is told in bytes. A piece of text stands at a place if the characters before it take up
that many bytes, so every place of a piece is one between two characters, and the empty piece
stands at exactly these. A slice is taken from one place to another, and there is one only where a
piece stands (`slice?_eq_some_iff`). -/

namespace Courier.Text

/-- The piece stands in the text at the byte `place`. -/
def StandsAt (piece : List Char) (place : Nat) (cs : List Char) : Prop :=
  ∃ front back, cs = front ++ piece ++ back ∧ Utf8.size front = place

/-- The bytes from one place to another. -/
def slice (bytes : List UInt8) (start stop : Nat) : List UInt8 :=
  (bytes.take stop).drop start

theorem size_cons_pos (c : Char) (cs : List Char) : 0 < Utf8.size (c :: cs) :=
  Nat.add_pos_left c.utf8Size_pos _

/-- Of two texts with the same end, the one that takes up no more bytes before it stands in
front of the other. -/
theorem prefix_of_size_le {a b c d : List Char} (h : a ++ b = c ++ d)
    (hsize : Utf8.size a ≤ Utf8.size c) : ∃ between, c = a ++ between ∧ b = between ++ d := by
  obtain ⟨between, hc, hb⟩ | ⟨between, ha, hd⟩ := List.append_eq_append_iff.1 h
  · exact ⟨between, hc, hb⟩
  · cases between with
    | nil => exact ⟨[], by simpa using ha.symm, by simpa using hd.symm⟩
    | cons x xs =>
      have hpos := size_cons_pos x xs
      rw [ha, Utf8.size_append] at hsize
      omega

section
variable {piece cs done rest : List Char} {place : Nat}

theorem standsAt_append_iff :
    StandsAt piece (Utf8.size done + place) (done ++ rest) ↔ StandsAt piece place rest := by
  constructor
  · rintro ⟨front, back, htext, hplace⟩
    rw [List.append_assoc] at htext
    obtain ⟨between, rfl, hrest⟩ := prefix_of_size_le htext (by omega)
    rw [Utf8.size_append] at hplace
    exact ⟨between, back, by rw [hrest, List.append_assoc], by omega⟩
  · rintro ⟨front, back, rfl, rfl⟩
    exact ⟨done ++ front, back, by simp only [List.append_assoc], Utf8.size_append ..⟩

/-- What begins a piece stands where the piece does. -/
theorem StandsAt.head {first : List Char} (h : StandsAt piece place cs)
    (hfirst : first <+: piece) : StandsAt first place cs := by
  obtain ⟨front, back, rfl, hplace⟩ := h
  obtain ⟨rest, rfl⟩ := hfirst
  exact ⟨front, rest ++ back, by simp only [List.append_assoc], hplace⟩

/-- A piece ends between two characters. -/
theorem StandsAt.stop (h : StandsAt piece place cs) :
    StandsAt [] (place + Utf8.size piece) cs := by
  obtain ⟨front, back, rfl, rfl⟩ := h
  exact ⟨front ++ piece, back, by rw [List.append_nil], Utf8.size_append ..⟩

/-- The bytes between the ends of a piece are the piece's own. -/
theorem StandsAt.slice_eq (h : StandsAt piece place cs) :
    slice (Utf8.encode cs) place (place + Utf8.size piece) = Utf8.encode piece := by
  obtain ⟨front, back, rfl, rfl⟩ := h
  rw [slice, Utf8.encode_append, Utf8.encode_append, ← Utf8.length_encode, ← Utf8.length_encode,
    ← List.length_append, List.take_left, List.drop_left]

/-- Two pieces at one place begin the same text. -/
theorem StandsAt.append_eq {a b : List Char} (ha : StandsAt a place cs) (hb : StandsAt b place cs) :
    ∃ x y, a ++ x = b ++ y := by
  obtain ⟨front, x, rfl, hfront⟩ := ha
  obtain ⟨front', y, htext, hfront'⟩ := hb
  rw [List.append_assoc, List.append_assoc] at htext
  obtain ⟨between, rfl, hbetween⟩ := prefix_of_size_le htext (by omega)
  cases between with
  | nil => exact ⟨x, y, hbetween⟩
  | cons c between =>
    have hpos := size_cons_pos c between
    rw [Utf8.size_append] at hfront'
    omega

end

/-! ### Slices -/

/-- The text before the byte `place` and behind it, if that is a place between two characters. -/
def cutAt? : Nat → List Char → Option (List Char × List Char)
  | 0, cs => some ([], cs)
  | _ + 1, [] => none
  | place + 1, c :: cs =>
    if c.utf8Size ≤ place + 1 then
      (cutAt? (place + 1 - c.utf8Size) cs).map fun (front, back) => (c :: front, back)
    else none

/-- The text from one place to another: none if the first lies behind the second, or if one of
them lies inside a character or behind the end. -/
def slice? (start stop : Nat) (cs : List Char) : Option (List Char) := do
  let (before, _) ← cutAt? stop cs
  let (_, piece) ← cutAt? start before
  return piece

theorem cutAt?_eq_some_iff {cs front back : List Char} {place : Nat} :
    cutAt? place cs = some (front, back) ↔ cs = front ++ back ∧ Utf8.size front = place := by
  constructor
  · intro h
    fun_induction cutAt? place cs generalizing front with
    | case1 cs =>
      cases h
      exact ⟨rfl, rfl⟩
    | case2 place => cases h
    | case3 place c cs hfits ih =>
      obtain ⟨⟨rest, back⟩, hrest, hcut⟩ := Option.map_eq_some_iff.1 h
      cases hcut
      obtain ⟨hcs, hsize⟩ := ih hrest
      refine ⟨congrArg (c :: ·) hcs, ?_⟩
      rw [Utf8.size]
      omega
    | case4 place c cs hlong => cases h
  · intro h
    obtain ⟨rfl, rfl⟩ := h
    induction front with
    | nil => rw [Utf8.size, cutAt?, List.nil_append]
    | cons c front ih =>
      have hpos := c.utf8Size_pos
      obtain ⟨n, hn⟩ : ∃ n, c.utf8Size + Utf8.size front = n + 1 :=
        Nat.exists_eq_add_one.2 (by omega)
      have hrest : n + 1 - c.utf8Size = Utf8.size front := by omega
      rw [Utf8.size, hn, List.cons_append, cutAt?, if_pos (by omega), hrest, ih]
      rfl

/-- A slice is the piece that stands from its first place to its second. -/
theorem slice?_eq_some_iff {piece cs : List Char} {start stop : Nat} :
    slice? start stop cs = some piece ↔
      StandsAt piece start cs ∧ stop = start + Utf8.size piece := by
  constructor
  · intro h
    obtain ⟨⟨before, back⟩, hstop, h⟩ := Option.bind_eq_some_iff.1 h
    obtain ⟨⟨front, _⟩, hstart, h⟩ := Option.bind_eq_some_iff.1 h
    cases h
    obtain ⟨rfl, rfl⟩ := cutAt?_eq_some_iff.1 hstop
    obtain ⟨rfl, rfl⟩ := cutAt?_eq_some_iff.1 hstart
    exact ⟨⟨front, back, rfl, rfl⟩, Utf8.size_append ..⟩
  · intro h
    obtain ⟨⟨front, back, rfl, rfl⟩, rfl⟩ := h
    have hstop : cutAt? (Utf8.size front + Utf8.size piece) (front ++ piece ++ back) =
        some (front ++ piece, back) := cutAt?_eq_some_iff.2 ⟨rfl, Utf8.size_append ..⟩
    have hstart : cutAt? (Utf8.size front) (front ++ piece) = some (front, piece) :=
      cutAt?_eq_some_iff.2 ⟨rfl, rfl⟩
    simp only [slice?, hstop, hstart, Option.bind_eq_bind, Option.bind_some, Option.pure_def]

end Courier.Text
