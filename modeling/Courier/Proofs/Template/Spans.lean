import Courier.Proofs.Template.Group
import Courier.Proofs.Template.Parts
import Courier.Proofs.Text.Place

/-! The braces of a text.

`Grammar` says which braces of a text count, in terms of the text and its bytes only: each opens
with the first opening braces that can be closed at all, holds at least one character, and closes
with the first closing braces behind that one. There is one list of spans with these properties
(`Grammar.unique`), and `scan_skip` says that a search that skips malformed braces goes by it: it
finds a call in the braces that hold one group in parentheses, and lists the others. -/

namespace Courier.Template

open Text (StandsAt)

/-- Braces in a text: the byte they start at, the byte behind them, and what they hold. -/
@[ext]
structure Span where
  start : Nat
  stop : Nat
  inner : List Char

/-- The braces as they stand in the text. -/
def Span.text (s : Span) : String :=
  String.ofList (withBraces s.inner)

/-- The spans are the braces of the text from the byte `low` on. -/
structure Grammar (cs : List Char) (low : Nat) (spans : List Span) : Prop where
  low_le : ∀ s ∈ spans, low ≤ s.start
  ordered : spans.Pairwise fun s t => s.stop ≤ t.start
  placed : ∀ s ∈ spans, StandsAt (withBraces s.inner) s.start cs ∧
    s.stop = s.start + Utf8.size (withBraces s.inner)
  /-- No braces close behind the first inner character and before the last two. -/
  shortest : ∀ s ∈ spans, s.inner ≠ [] ∧ ¬['}', '}'] <:+: s.inner.tail ++ ['}']
  /-- No braces open in a gap before a span. -/
  leftmost : ∀ place, low ≤ place → (∀ s ∈ spans, ¬(s.start ≤ place ∧ place < s.stop)) →
    (∃ s ∈ spans, place < s.start) → ¬StandsAt ['{', '{'] place cs
  /-- No braces behind the last span open and close around a character. -/
  complete : ∀ place c inner, low ≤ place → (∀ s ∈ spans, s.stop ≤ place) →
    ¬StandsAt (withBraces (c :: inner)) place cs

theorem opening_withBraces (inner : List Char) : ['{', '{'] <+: withBraces inner :=
  ⟨inner ++ ['}', '}'], rfl⟩

namespace Grammar

section
variable {cs : List Char} {low : Nat} {s t : Span} {spans others : List Span}

theorem start_lt_stop (h : Grammar cs low spans) (hs : s ∈ spans) : s.start < s.stop := by
  have hpos : 0 < Utf8.size (withBraces s.inner) := Text.size_cons_pos ..
  have := (h.placed s hs).2
  omega

theorem boundaries (h : Grammar cs low spans) (hs : s ∈ spans) :
    StandsAt [] s.start cs ∧ StandsAt [] s.stop cs := by
  obtain ⟨hplace, hstop⟩ := h.placed s hs
  exact ⟨hplace.head List.nil_prefix, hstop ▸ hplace.stop⟩

theorem slice_eq (h : Grammar cs low spans) (hs : s ∈ spans) :
    Text.slice (Utf8.encode cs) s.start s.stop = Utf8.bytes s.text := by
  obtain ⟨hplace, hstop⟩ := h.placed s hs
  rw [hstop, hplace.slice_eq, Span.text, Utf8.bytes_ofList]

/-! ### There are no other braces -/

theorem tail (h : Grammar cs low (s :: spans)) : Grammar cs s.stop spans := by
  obtain ⟨hfirst, hrest⟩ := List.pairwise_cons.1 h.ordered
  have hlow : low ≤ s.stop :=
    (h.low_le s (List.mem_cons_self ..)).trans (h.start_lt_stop (List.mem_cons_self ..)).le
  refine ⟨hfirst, hrest, fun t ht => h.placed t (List.mem_cons_of_mem s ht),
    fun t ht => h.shortest t (List.mem_cons_of_mem s ht), ?_, ?_⟩
  · rintro place hplace hgap ⟨t, ht, hbefore⟩
    refine h.leftmost place (hlow.trans hplace) ?_ ⟨t, List.mem_cons_of_mem s ht, hbefore⟩
    intro u hu
    rcases List.mem_cons.1 hu with rfl | hu
    · omega
    · exact hgap u hu
  · intro place c inner hplace hbehind
    refine h.complete place c inner (hlow.trans hplace) fun t ht => ?_
    rcases List.mem_cons.1 ht with rfl | ht
    · exact hplace
    · exact hbehind t ht

/-- Where there are braces, a list without any is not complete. -/
theorem not_nil (h : Grammar cs low (s :: spans)) : ¬Grammar cs low [] := by
  have hs := List.mem_cons_self (a := s) (l := spans)
  obtain ⟨c, inner, hinner⟩ := List.exists_cons_of_ne_nil (h.shortest s hs).1
  have hplace := (h.placed s hs).1
  rw [hinner] at hplace
  exact fun hnil => hnil.complete s.start c inner (h.low_le s hs) (by simp) hplace

/-- The first braces start no later than any others could. -/
theorem start_le (h : Grammar cs low (s :: spans)) (h' : Grammar cs low (t :: others)) :
    t.start ≤ s.start := by
  have hs := List.mem_cons_self (a := s) (l := spans)
  have ht := List.mem_cons_self (a := t) (l := others)
  have hopen := (h.placed s hs).1.head (opening_withBraces s.inner)
  by_contra hlt
  refine h'.leftmost s.start (h.low_le s hs) ?_ ⟨t, ht, by omega⟩ hopen
  intro u hu
  rcases List.mem_cons.1 hu with rfl | hu
  · omega
  · have := (List.pairwise_cons.1 h'.ordered).1 u hu
    have := h'.start_lt_stop ht
    omega

/-- Of two texts in braces at one place, both as short as they can be, neither is longer. -/
theorem inner_eq (h : Grammar cs low (s :: spans)) (h' : Grammar cs low (t :: others))
    (hstart : s.start = t.start) : s.inner = t.inner := by
  have hs := List.mem_cons_self (a := s) (l := spans)
  have ht := List.mem_cons_self (a := t) (l := others)
  obtain ⟨hne, hshort⟩ := h.shortest s hs
  obtain ⟨hne', hshort'⟩ := h'.shortest t ht
  have hplace := (h.placed s hs).1
  rw [hstart] at hplace
  obtain ⟨x, y, htext⟩ := hplace.append_eq (h'.placed t ht).1
  obtain ⟨c, inner, hinner⟩ := List.exists_cons_of_ne_nil hne
  obtain ⟨d, inner', hinner'⟩ := List.exists_cons_of_ne_nil hne'
  rw [hinner, List.tail_cons] at hshort
  rw [hinner', List.tail_cons] at hshort'
  rw [hinner, hinner'] at htext ⊢
  simp only [withBraces, List.cons_append, List.append_assoc, List.cons.injEq, true_and,
    List.nil_append] at htext
  obtain ⟨rfl, htext⟩ := htext
  obtain ⟨hpair, hlast⟩ := noPair_concat_iff.1 (noPair_iff.2 hshort)
  obtain ⟨hpair', hlast'⟩ := noPair_concat_iff.1 (noPair_iff.2 hshort')
  have hclose := closing?_append hpair hlast x
  rw [htext, closing?_append hpair' hlast' y] at hclose
  cases hclose
  rfl

theorem unique (h : Grammar cs low spans) (h' : Grammar cs low others) : others = spans := by
  induction spans generalizing low others with
  | nil =>
    cases others with
    | nil => rfl
    | cons t others => exact absurd h h'.not_nil
  | cons s spans ih =>
    cases others with
    | nil => exact absurd h' h.not_nil
    | cons t others =>
      have hstart := Nat.le_antisymm (h'.start_le h) (h.start_le h')
      have hinner := h.inner_eq h' hstart
      have hstop : s.stop = t.stop := by
        rw [(h.placed s (List.mem_cons_self ..)).2, (h'.placed t (List.mem_cons_self ..)).2,
          hstart, hinner]
      have hspan : s = t := Span.ext hstart hstop hinner
      have hrest := h'.tail
      rw [← hspan] at hrest
      rw [← hspan, ih h.tail hrest]

end

/-! ### What a search finds -/

section
variable {done rest gap inner after : List Char} {spans : List Span}

theorem nil (h : braced? rest = none) : Grammar (done ++ rest) (Utf8.size done) [] := by
  refine ⟨by simp, .nil, by simp, by simp, by simp, ?_⟩
  intro place c inner hplace _ hstands
  obtain ⟨k, rfl⟩ := Nat.exists_eq_add_of_le hplace
  obtain ⟨front, back, rfl, -⟩ := Text.standsAt_append_iff.1 hstands
  exact not_infix_of_braced?_eq_none h c inner ⟨front, back, rfl⟩

/-- No braces open before the first ones that close. -/
theorem gap_unopened (h : braced? rest = some (gap, inner, after)) {place : Nat}
    (hplace : place < Utf8.size gap) : ¬StandsAt ['{', '{'] place rest := by
  rintro ⟨front, back, htext, rfl⟩
  rw [append_of_braced? h, List.append_assoc, List.append_assoc] at htext
  obtain ⟨between, rfl, hbetween⟩ := Text.prefix_of_size_le htext.symm hplace.le
  cases between with
  | nil => simp at hplace
  | cons c between =>
    -- The second brace of the pair is in the gap too, or it is the one that ends it.
    have hpair : ['{', '{'] <+: c :: between ++ ['{'] := by
      cases between with
      | nil =>
        obtain ⟨rfl, -⟩ := List.cons.inj hbetween
        exact List.prefix_rfl
      | cons d between =>
        simp only [List.cons_append, List.cons.injEq] at hbetween
        obtain ⟨rfl, rfl, -⟩ := hbetween
        exact List.prefix_append ['{', '{'] _
    apply noPair_iff.1 (noPair_of_braced? h)
    rw [List.append_assoc]
    exact hpair.isInfix.trans (List.suffix_append ..).isInfix

/-- The first braces, and the spans of the text behind them. -/
theorem cons (h : braced? rest = some (gap, inner, after))
    (hspans : Grammar (done ++ gap ++ withBraces inner ++ after)
      (Utf8.size (done ++ gap ++ withBraces inner)) spans) :
    Grammar (done ++ rest) (Utf8.size done)
      (⟨Utf8.size done + Utf8.size gap,
        Utf8.size done + Utf8.size gap + Utf8.size (withBraces inner), inner⟩ :: spans) := by
  have htext := append_of_braced? h
  have hwhole : done ++ gap ++ withBraces inner ++ after = done ++ rest := by
    rw [htext]
    simp only [List.append_assoc]
  rw [hwhole, Utf8.size_append, Utf8.size_append] at hspans
  obtain ⟨hne, hshort⟩ := shortest_of_braced? h
  refine ⟨?_, List.pairwise_cons.2 ⟨hspans.low_le, hspans.ordered⟩, ?_, ?_, ?_, ?_⟩
  · refine List.forall_mem_cons.2 ⟨Nat.le_add_right .., fun s hs => ?_⟩
    have := hspans.low_le s hs
    omega
  · refine List.forall_mem_cons.2 ⟨⟨?_, rfl⟩, hspans.placed⟩
    exact Text.standsAt_append_iff.2 ⟨gap, after, htext, rfl⟩
  · exact List.forall_mem_cons.2 ⟨⟨hne, noPair_iff.1 hshort⟩, hspans.shortest⟩
  · rintro place hplace hgap ⟨s, hs, hbefore⟩
    obtain ⟨hfirst, hothers⟩ := List.forall_mem_cons.1 hgap
    by_cases hfront : place < Utf8.size done + Utf8.size gap
    · obtain ⟨k, rfl⟩ := Nat.exists_eq_add_of_le hplace
      rw [Text.standsAt_append_iff]
      exact gap_unopened h (by omega)
    · rcases List.mem_cons.1 hs with rfl | hs
      · exact absurd hbefore hfront
      · exact hspans.leftmost place (by simp only at hfirst; omega) hothers ⟨s, hs, hbefore⟩
  · intro place c other hplace hbehind
    obtain ⟨hfirst, hothers⟩ := List.forall_mem_cons.1 hbehind
    exact hspans.complete place c other hfirst hothers

end

end Grammar

/-! ### Calls and malformed braces -/

/-- Where a call stands, and its text. -/
def Call.extent (call : Call) : Nat × Nat × String :=
  (call.start, call.stop, call.text)

/-- Where braces stand, and their text. -/
def Span.extent (s : Span) : Nat × Nat × String :=
  (s.start, s.stop, s.text)

/-- The calls among the parts are the spans with one group, and the malformed braces the others. -/
structure Sorted (spans : List Span) (ps : List Part) : Prop where
  calls : (ps.filterMap Part.call?).map Call.extent =
    (spans.filter fun s => HasOneGroup s.inner).map Span.extent
  malformed : ps.filterMap Part.malformed? =
    (spans.filter fun s => ¬HasOneGroup s.inner).map Span.text

section
variable {s : Span} {spans : List Span} {ps : List Part}

theorem Sorted.cons_call (h : Sorted spans ps) (gap : List Char) {call : Call}
    (hcall : call.extent = s.extent) (hs : HasOneGroup s.inner) :
    Sorted (s :: spans) (.literal gap :: .call call :: ps) where
  calls := by
    rw [List.filter_cons_of_pos (by simpa using hs), List.map_cons, ← h.calls, ← hcall]
    rfl
  malformed := by
    rw [List.filter_cons_of_neg (by simpa using hs), ← h.malformed]
    rfl

theorem Sorted.cons_malformed (h : Sorted spans ps) (gap : List Char) (hs : ¬HasOneGroup s.inner) :
    Sorted (s :: spans) (.literal gap :: .malformed s.inner :: ps) where
  calls := by
    rw [List.filter_cons_of_neg (by simpa using hs), ← h.calls]
    rfl
  malformed := by
    rw [List.filter_cons_of_pos (by simpa using hs), List.map_cons, ← h.malformed]
    rfl

end

theorem exists_spans (collection : String) (done rest : List Char) :
    ∃ spans, Grammar (done ++ rest) (Utf8.size done) spans ∧
      Sorted spans (partsFrom .skip collection (Utf8.size done) rest) := by
  generalize hoffset : Utf8.size done = offset
  generalize hmode : Mode.skip = mode
  fun_induction partsFrom mode collection offset rest generalizing done with
  | case1 offset rest h =>
    subst hoffset
    exact ⟨[], .nil h, rfl, rfl⟩
  | case2 offset rest gap inner after h _ start stop chain argument hp text ih =>
    subst hoffset
    have hstop : Utf8.size (done ++ gap ++ withBraces inner) = stop := by
      rw [Utf8.size_append, Utf8.size_append]
    obtain ⟨spans, hspans, hsorted⟩ := ih _ hstop
    have hgroup : HasOneGroup inner := isSome_parseInner?_iff.1 (by rw [hp, Option.isSome_some])
    exact ⟨_ :: spans, .cons h (hstop ▸ hspans), hsorted.cons_call gap rfl hgroup⟩
  | case3 offset rest gap inner after h _ start stop hp ih =>
    subst hoffset hmode
    have hstop : Utf8.size (done ++ gap ++ withBraces inner) = stop := by
      rw [Utf8.size_append, Utf8.size_append]
    obtain ⟨spans, hspans, hsorted⟩ := ih _ hstop
    have hgroup : ¬HasOneGroup inner := fun hone => by
      have := isSome_parseInner?_iff.2 hone
      rw [hp] at this
      cases this
    exact ⟨_ :: spans, .cons h (hstop ▸ hspans), hsorted.cons_malformed gap hgroup⟩

/-- **The grammar of a search.** The braces of a text are one list of spans: in order and apart,
each between two characters at both ends and with the bytes of the text from one end to the other,
none of them longer than it must be, and nothing between them or behind them that could have
opened braces or been braces. A search that skips malformed braces goes through them in this
order: it finds a call, where they stand and with their text, in those that hold one group in
parentheses, and the others are malformed. -/
theorem scan_skip (collection text : String) :
    ∃ spans, Grammar text.toList 0 spans ∧ (∀ others, Grammar text.toList 0 others → others = spans) ∧
      (∀ s ∈ spans, StandsAt [] s.start text.toList ∧ StandsAt [] s.stop text.toList ∧
        Text.slice (Utf8.bytes text) s.start s.stop = Utf8.bytes s.text) ∧
      (scan .skip collection text).calls.map Call.extent =
        (spans.filter fun s => HasOneGroup s.inner).map Span.extent ∧
      (scan .skip collection text).malformed =
        (spans.filter fun s => ¬HasOneGroup s.inner).map Span.text := by
  obtain ⟨spans, h, hsorted⟩ := exists_spans collection [] text.toList
  refine ⟨spans, h, fun others => h.unique, fun s hs => ?_, hsorted.calls, hsorted.malformed⟩
  obtain ⟨hstart, hstop⟩ := h.boundaries hs
  exact ⟨hstart, hstop, h.slice_eq hs⟩

/-- Braces around a brace, and a call that opens with the first two of three braces. -/
example : scan .skip "c1" "é\x7b\x7b\x7d\x7d\x7d\x7b\x7b\x7bx()\x7d\x7d\x7d" =
    ⟨[⟨"c1", "\x7b\x7b\x7bx()\x7d\x7d", 7, 15, ["\x7bx"], .single ""⟩],
      ["\x7b\x7b\x7d\x7d\x7d"]⟩ := by
  cbv

end Courier.Template
