import Courier.Proofs.Json.Brackets
import Courier.Proofs.Json.Printed
import Courier.Proofs.Json.Values

/-! Numbers that are written as integers.

The numbers of a text are found as its tokens are (`Token.numerals`). One that is written as an
integer, not as a negative zero, and that sixty-four bits hold has itself for its value
(`value?_of_isInteger`). Tokens go into documents as they are, and the machine that puts a document
together makes no numbers of its own (`isExact_step`), so if all numbers of a text are of that kind, its
value is exact (`exact_of_parse?`). -/

namespace Courier.Json

/-! ### Numerals -/

namespace Numeral

/-- The number that the sign and the digits write. -/
def integer (n : Numeral) : Int :=
  if n.negative then -(natOf n.whole : Int) else natOf n.whole

/-- The numeral is written as an integer that is exact. -/
structure IsInteger (n : Numeral) : Prop where
  fraction : n.fraction = []
  exponent : n.exponent = none
  /-- A zero has no sign. -/
  zero : n.negative = true → 0 < natOf n.whole
  fits : Fits n.integer

instance (n : Numeral) : Decidable n.IsInteger :=
  decidable_of_iff (n.fraction = [] ∧ n.exponent = none ∧
      (n.negative = true → 0 < natOf n.whole) ∧ Fits n.integer)
    ⟨fun ⟨hfraction, hexponent, hzero, hfits⟩ => ⟨hfraction, hexponent, hzero, hfits⟩,
      fun h => ⟨h.fraction, h.exponent, h.zero, h.fits⟩⟩

theorem value?_of_isInteger {n : Numeral} (h : n.IsInteger) :
    n.value? = some (.whole n.integer) := by
  obtain ⟨hfraction, hexponent, hzero, hlow, hhigh⟩ := h
  have hwhole : n.isWhole = true := by simp [isWhole, hfraction, hexponent]
  unfold integer at hlow hhigh ⊢
  cases hnegative : n.negative with
  | true =>
    have hpos : 0 < natOf n.whole := hzero hnegative
    rw [hnegative, if_pos rfl] at hlow
    have hbound : 2 * natOf n.whole ≤ UInt64.size := by omega
    have habsorb : absorb 0 n.whole = (natOf n.whole, []) :=
      absorb_eq (show natOf n.whole < UInt64.size by omega)
    simp [value?, habsorb, hwhole, hnegative, hpos, hbound]
  | false =>
    rw [hnegative, if_neg (by decide)] at hhigh
    have habsorb : absorb 0 n.whole = (natOf n.whole, []) :=
      absorb_eq (show natOf n.whole < UInt64.size by omega)
    simp [value?, habsorb, hwhole, hnegative]

end Numeral

/-! ### Tokens -/

namespace Token

/-- The numbers of a text, as they are written. -/
def numerals (cs : List Char) : List Numeral :=
  match cs with
  | [] => []
  | c :: cs =>
    if isSpace c then numerals cs
    else
      match h : read? c cs with
      | none => []
      | some (_, rest) =>
        have := length_read? h
        ((Numeral.read? (c :: cs)).map Prod.fst).toList ++ numerals rest
termination_by cs.length
decreasing_by all_goals simp_all; try omega

theorem exists_of_read?_number {c : Char} {cs rest : List Char} {n : Option Number}
    (h : read? c cs = some (.number n, rest)) :
    ∃ numeral, Numeral.read? (c :: cs) = some (numeral, rest) ∧ numeral.value? = n := by
  unfold read? at h
  split at h
  case h_7 =>
    obtain ⟨r, -, hr⟩ := Option.map_eq_some_iff.1 h
    cases hr
  case h_8 =>
    split at h
    · obtain ⟨r, hr, hnumber⟩ := Option.map_eq_some_iff.1 h
      cases hnumber
      exact ⟨r.1, hr, rfl⟩
    · unfold word? at h
      split at h
      · cases h
      · split at h
        · cases h
        · split at h <;> cases h
  all_goals cases h

theorem numerals_cons {c : Char} {cs rest : List Char} {token : Token} (hc : isSpace c = false)
    (hread : read? c cs = some (token, rest)) :
    numerals (c :: cs) = ((Numeral.read? (c :: cs)).map Prod.fst).toList ++ numerals rest := by
  rw [numerals, if_neg (by simp [hc])]
  split
  · next hnone => cases hread.symm.trans hnone
  · next hsome =>
    cases hread.symm.trans hsome
    rfl

/-- Every number among the tokens is that of a numeral. -/
theorem exists_numeral_of_mem {cs : List Char} {tokens : List Token} (h : all? cs = some tokens)
    {n : Option Number} (hn : .number n ∈ tokens) : ∃ numeral ∈ numerals cs, numeral.value? = n := by
  fun_induction all? cs generalizing tokens with
  | case1 =>
    cases h
    cases hn
  | case2 c cs hc ih =>
    rw [numerals, if_pos hc]
    exact ih h hn
  | case3 => cases h
  | case4 c cs hc token rest hread _ ih =>
    obtain ⟨more, hmore, rfl⟩ := Option.map_eq_some_iff.1 h
    rw [numerals_cons (by simpa using hc) hread]
    rcases List.mem_cons.1 hn with hfirst | hbehind
    · obtain ⟨numeral, hnumeral, hvalue⟩ := exists_of_read?_number (hfirst ▸ hread)
      exact ⟨numeral, by simp [hnumeral], hvalue⟩
    · obtain ⟨numeral, hmem, hvalue⟩ := ih hmore hbehind
      exact ⟨numeral, List.mem_append_right _ hmem, hvalue⟩

/-- A number that the token has is whole. -/
def IsExact (token : Token) : Prop :=
  ∀ n, token = .number n → ∃ k, Numeral.Fits k ∧ n = some (.whole k)

theorem isExact_of_all? {cs : List Char} {tokens : List Token} (h : all? cs = some tokens)
    (hintegers : ∀ numeral ∈ numerals cs, numeral.IsInteger) :
    ∀ token ∈ tokens, token.IsExact := by
  intro token htoken n hn
  obtain ⟨numeral, hmem, hvalue⟩ := exists_numeral_of_mem h (hn ▸ htoken)
  have hinteger : numeral.IsInteger := hintegers numeral hmem
  exact ⟨numeral.integer, hinteger.fits, by rw [← hvalue, Numeral.value?_of_isInteger hinteger]⟩

end Token

/-! ### Documents -/

namespace Document

/-- Every number in the document is whole. -/
inductive IsExact : Document → Prop where
  | null : IsExact .null
  | bool (b : Bool) : IsExact (.bool b)
  | number {n : Int} (h : Numeral.Fits n) : IsExact (.number (some (.whole n)))
  | string (s : Option String) : IsExact (.string s)
  | array {items : List Document} (h : ∀ item ∈ items, IsExact item) : IsExact (.array items)
  | object {members : List (Option String × Document)} (h : ∀ d ∈ members.map Prod.snd, IsExact d) :
    IsExact (.object members)

/-- The documents in an open array or object. -/
def Frame.documents : Frame → List Document
  | .array items => items
  | .object members _ => members.map Prod.snd

/-- The documents of what stands on top of all frames. -/
def Expected.documents : Expected → List Document
  | .name members | .colon members _ | .afterMember members => members.map Prod.snd
  | .afterItem items => items
  | .nothing document => [document]
  | .value | .valueOrEnd | .nameOrEnd => []

namespace Builder

/-- The documents that the machine holds. -/
def documents (b : Builder) : List Document :=
  b.expected.documents ++ b.frames.flatMap Frame.documents

theorem isExact_deliver {value : Document} {frames : List Frame} (hvalue : value.IsExact)
    (hframes : ∀ d ∈ frames.flatMap Frame.documents, d.IsExact) :
    ∀ d ∈ (deliver value frames).documents, d.IsExact := by
  cases frames with
  | nil => exact List.forall_mem_singleton.2 hvalue
  | cons frame frames =>
    cases frame with
    | array items => exact List.forall_mem_cons.2 ⟨hvalue, hframes⟩
    | object members name => exact List.forall_mem_cons.2 ⟨hvalue, hframes⟩

theorem isExact_beginValue {frames : List Frame} {token : Token} {b : Builder}
    (htoken : token.IsExact) (hframes : ∀ d ∈ frames.flatMap Frame.documents, d.IsExact)
    (h : beginValue frames token = some b) : ∀ d ∈ b.documents, d.IsExact := by
  unfold beginValue at h
  split at h
  case h_3 n =>
    cases h
    obtain ⟨k, hk, rfl⟩ := htoken n rfl
    exact isExact_deliver (.number hk) hframes
  all_goals cases h
  · exact isExact_deliver .null hframes
  · exact isExact_deliver (.bool _) hframes
  · exact isExact_deliver (.string _) hframes
  · exact hframes
  · exact hframes

/-- The machine makes no numbers of its own. -/
theorem isExact_step {b b' : Builder} {token : Token} (htoken : token.IsExact)
    (hb : ∀ d ∈ b.documents, d.IsExact) (h : b.step token = some b') :
    ∀ d ∈ b'.documents, d.IsExact := by
  obtain ⟨frames, expected⟩ := b
  obtain ⟨hexpected, hframes⟩ := List.forall_mem_append.1 hb
  simp only [step] at h
  split at h
  case h_1 => exact isExact_beginValue htoken hframes h
  case h_2 =>
    cases h
    refine isExact_deliver (.array (List.forall_mem_nil _)) fun d hd => ?_
    obtain ⟨frame, hframe, hd⟩ := List.mem_flatMap.1 hd
    exact hframes d (List.mem_flatMap.2 ⟨frame, List.mem_of_mem_drop hframe, hd⟩)
  case h_3 => exact isExact_beginValue htoken hframes h
  case h_6 =>
    cases h
    exact isExact_deliver (.object (List.forall_mem_nil _)) hframes
  case h_9 items =>
    cases h
    exact isExact_deliver (.array fun item hitem => hexpected item (List.mem_reverse.1 hitem)) hframes
  case h_11 members =>
    cases h
    refine isExact_deliver (.object fun d hd => hexpected d ?_) hframes
    rwa [List.map_reverse, List.mem_reverse] at hd
  case h_12 => cases h
  -- Every other token moves on and leaves all documents where they are.
  all_goals
    cases h
    exact hb

theorem isExact_foldlM {b b' : Builder} {tokens : List Token}
    (htokens : ∀ token ∈ tokens, token.IsExact) (hb : ∀ d ∈ b.documents, d.IsExact)
    (h : tokens.foldlM step b = some b') : ∀ d ∈ b'.documents, d.IsExact := by
  induction tokens generalizing b with
  | nil =>
    cases h
    exact hb
  | cons token tokens ih =>
    obtain ⟨htoken, hmore⟩ := List.forall_mem_cons.1 htokens
    rw [List.foldlM_cons] at h
    obtain ⟨next, hstep, hrest⟩ := Option.bind_eq_some_iff.1 h
    exact ih hmore (isExact_step htoken hb hstep) hrest

end Builder

theorem isExact_ofTokens? {tokens : List Token} {document : Document}
    (htokens : ∀ token ∈ tokens, token.IsExact) (h : ofTokens? tokens = some document) :
    document.IsExact := by
  obtain ⟨b, hrun, hexpected⟩ := exists_of_ofTokens? h
  have hstart : ∀ d ∈ Builder.start.documents, d.IsExact := List.forall_mem_nil _
  have hdocuments : ∀ d ∈ b.documents, d.IsExact := Builder.isExact_foldlM htokens hstart hrun
  refine hdocuments document (List.mem_append_left _ ?_)
  rw [hexpected]
  exact List.mem_singleton_self document

/-- The numbers of a value are those of its document, except for members that others replace. -/
theorem IsExact.exact {document : Document} (h : document.IsExact) {room : Nat} {j : Json}
    (hvalue : document.value? room = some j) : Exact j := by
  induction h generalizing room j with
  | null =>
    cases hvalue
    exact .null
  | bool b =>
    cases hvalue
    exact .bool b
  | number h =>
    cases hvalue
    exact .number h
  | string s =>
    obtain ⟨s, -, rfl⟩ := Option.map_eq_some_iff.1 hvalue
    exact .string s
  | array _ ih =>
    cases room with
    | zero => cases hvalue
    | succ room =>
      obtain ⟨values, hvalues, rfl⟩ := Option.map_eq_some_iff.1 hvalue
      refine .array fun item hitem => ?_
      obtain ⟨d, hd, hmeans⟩ := exists_of_mem_itemValues? hvalues hitem
      exact ih d hd hmeans
  | object _ ih =>
    cases room with
    | zero => cases hvalue
    | succ room =>
      obtain ⟨values, hvalues, rfl⟩ := Option.map_eq_some_iff.1 hvalue
      refine .object fun m hm => ?_
      obtain ⟨d, hd, hmeans⟩ := exists_of_mem_memberValues? hvalues (mem_of_mem_collect hm)
      exact ih d hd hmeans

end Document

/-- The value of a text is exact if all of its numbers are written as integers. -/
theorem exact_of_parse? {text : String} {j : Json} (h : parse? text = some j)
    (hintegers : ∀ numeral ∈ Token.numerals text.toList, numeral.IsInteger) : Exact j := by
  obtain ⟨document, hdocument, hvalue⟩ := Option.bind_eq_some_iff.1 h
  obtain ⟨tokens, htokens, hof⟩ := Option.bind_eq_some_iff.1 hdocument
  exact (Document.isExact_ofTokens? (Token.isExact_of_all? htokens hintegers) hof).exact hvalue

end Courier.Json
