import Courier.Proofs.Json.Reading

/-! The brackets around arrays and objects.

Reading a token takes it off the front of the text (`takes_read?`), so the first and the last
character of a text belong to its first and its last token. The machine that puts the tokens
together stays in the container that it opened first until that one is closed
(`outermost?_foldlM`). Hence `brackets_of_parse?`: the text of an array or an object stands in
brackets of that kind. -/

namespace Courier.Json

namespace Token

/-! ### Tokens of one character -/

/-- The character of a token that has only one. -/
def mark? : Token → Option Char
  | .openBracket => some '['
  | .closeBracket => some ']'
  | .openBrace => some '{'
  | .closeBrace => some '}'
  | .comma => some ','
  | .colon => some ':'
  | _ => none

theorem mark?_word? {cs : List Char} {r : Token × List Char} (h : word? cs = some r) :
    r.1.mark? = none := by
  unfold word? at h
  split at h
  · cases h
    rfl
  · split at h
    · cases h
      rfl
    · split at h
      · cases h
        rfl
      · cases h

theorem eq_mark_of_read? {c m : Char} {cs : List Char} {r : Token × List Char}
    (h : read? c cs = some r) (hm : r.1.mark? = some m) : c = m ∧ r.2 = cs := by
  unfold read? at h
  split at h
  case h_7 =>
    obtain ⟨p, hp, rfl⟩ := Option.map_eq_some_iff.1 h
    cases hm
  case h_8 =>
    split at h
    · obtain ⟨p, hp, rfl⟩ := Option.map_eq_some_iff.1 h
      cases hm
    · cases (mark?_word? h).symm.trans hm
  all_goals
    cases h
    cases hm
    exact ⟨rfl, rfl⟩

/-- The first character of a text that is not blank belongs to its first token. -/
theorem head?_of_all? {cs : List Char} {m : Char} {token : Token} {tokens : List Token}
    (h : all? cs = some (token :: tokens)) (hm : token.mark? = some m) :
    (cs.filter (!isSpace ·)).head? = some m := by
  induction cs with
  | nil =>
    rw [all?] at h
    cases h
  | cons c cs ih =>
    cases hc : isSpace c with
    | true =>
      rw [all?_cons_of_isSpace hc] at h
      rw [List.filter_cons_of_neg (by simp [hc])]
      exact ih h
    | false =>
      obtain ⟨_, _, _, hread, -, hcons⟩ := exists_of_all?_cons hc h
      cases hcons
      rw [List.filter_cons_of_pos (by simp [hc]), List.head?_cons, (eq_mark_of_read? hread hm).1]

/-- The last character of a text that is not blank belongs to its last token. -/
theorem getLast?_of_all? {cs : List Char} {m : Char} {token : Token} {tokens : List Token}
    (h : all? cs = some tokens) (htoken : tokens.getLast? = some token)
    (hm : token.mark? = some m) : (cs.filter (!isSpace ·)).getLast? = some m := by
  fun_induction all? cs generalizing tokens with
  | case1 =>
    cases h
    cases htoken
  | case2 c cs hc ih =>
    rw [List.filter_cons_of_neg (by simp [hc])]
    exact ih h htoken
  | case3 => cases h
  | case4 c cs hc next rest hread _ ih =>
    obtain ⟨more, hmore, rfl⟩ := Option.map_eq_some_iff.1 h
    cases more with
    | nil =>
      cases Option.some.inj htoken
      obtain ⟨rfl, rfl⟩ := eq_mark_of_read? hread hm
      have hblank : rest.filter (!isSpace ·) = [] := by
        simpa [List.filter_eq_nil_iff] using isSpace_of_all? hmore
      rw [List.filter_cons_of_pos (by simp [hc]), hblank, List.getLast?_singleton]
    | cons first more =>
      rw [List.getLast?_cons_cons] at htoken
      have hrest : (rest.filter (!isSpace ·)).getLast? = some m := ih hmore htoken
      obtain ⟨used, rfl, -, -⟩ := takes_read? hread
      rw [← List.cons_append, List.filter_append, List.getLast?_append, hrest, Option.some_or]

end Token

/-! ### Containers -/

/-- What has values inside it. -/
inductive Container where
  | array
  | object

namespace Container

def opening : Container → Token
  | array => .openBracket
  | object => .openBrace

def closing : Container → Token
  | array => .closeBracket
  | object => .closeBrace

end Container

namespace Document

def container? : Document → Option Container
  | .array _ => some .array
  | .object _ => some .object
  | _ => none

def Frame.container : Frame → Container
  | .array _ => .array
  | .object .. => .object

/-- The container inside all frames in which something is expected. -/
def Expected.container? : Expected → Option Container
  | .value | .valueOrEnd => none
  | .name _ | .nameOrEnd | .colon .. | .afterMember _ => some .object
  | .afterItem _ => some .array
  | .nothing document => document.container?

/-- The container that was opened first, if there is one but for the inmost one. -/
def Frame.outermost? (frames : List Frame) : Option Container :=
  frames.getLast?.map container

theorem Frame.outermost?_cons (frame : Frame) (frames : List Frame) (inmost : Option Container) :
    (outermost? (frame :: frames)).or inmost = (outermost? frames).or (some frame.container) := by
  rw [outermost?, List.getLast?_cons, outermost?]
  cases frames.getLast? <;> rfl

namespace Builder

/-- The container that was opened first, or that the document is. -/
def outermost? (b : Builder) : Option Container :=
  (Frame.outermost? b.frames).or b.expected.container?

/-- An array that was just opened stands on top, and a complete document stands alone. -/
structure Formed (b : Builder) : Prop where
  opened : b.expected = .valueOrEnd → ∃ frames, b.frames = .array [] :: frames
  complete : ∀ document, b.expected = .nothing document → b.frames = []

theorem formed_deliver (value : Document) (frames : List Frame) : (deliver value frames).Formed := by
  cases frames with
  | nil => exact ⟨nofun, fun _ _ => rfl⟩
  | cons frame frames => cases frame <;> exact ⟨nofun, nofun⟩

/-- A value goes into the container around it, and is the document itself if there is none. -/
theorem outermost?_deliver (value : Document) (frames : List Frame) :
    (deliver value frames).outermost? = (Frame.outermost? frames).or value.container? := by
  cases frames with
  | nil => rfl
  | cons frame frames =>
    rw [Frame.outermost?_cons]
    cases frame <;> rfl

theorem eq_of_expected_deliver {value document : Document} {frames : List Frame}
    (h : (deliver value frames).expected = .nothing document) : document = value := by
  cases frames with
  | nil => exact (Expected.nothing.inj h).symm
  | cons frame frames => cases frame <;> cases h

/-- What a token does. -/
inductive Moves (b : Builder) (token : Token) (b' : Builder) : Prop where
  /-- It is a value without others inside. -/
  | single (value : Document) (h : value.container? = none) (hmove : b' = deliver value b.frames)
      (hin : b.outermost? = Frame.outermost? b.frames)
  /-- It begins a container. -/
  | opens (container : Container) (h : token = container.opening) (hformed : b'.Formed)
      (hout : b'.outermost? = (Frame.outermost? b.frames).or (some container))
      (hin : b.outermost? = Frame.outermost? b.frames)
      (hexpected : ∀ document, b'.expected ≠ .nothing document)
  /-- It closes the container in which it stands. -/
  | closes (value : Document) (frames : List Frame) (container : Container)
      (hvalue : value.container? = some container) (h : token = container.closing)
      (hmove : b' = deliver value frames)
      (hin : b.outermost? = (Frame.outermost? frames).or (some container))
  /-- It stands between the values of the container. -/
  | goesOn (hformed : b'.Formed) (hinside : b.outermost? ≠ none)
      (hin : b'.outermost? = b.outermost?) (hexpected : ∀ document, b'.expected ≠ .nothing document)

theorem moves_of_beginValue {b b' : Builder} {token : Token}
    (hin : b.outermost? = Frame.outermost? b.frames) (h : beginValue b.frames token = some b') :
    Moves b token b' := by
  unfold beginValue at h
  split at h
  all_goals cases h
  · exact .single .null rfl rfl hin
  · exact .single (.bool _) rfl rfl hin
  · exact .single (.number _) rfl rfl hin
  · exact .single (.string _) rfl rfl hin
  · exact .opens .array rfl ⟨fun _ => ⟨_, rfl⟩, nofun⟩ (Frame.outermost?_cons ..) hin nofun
  · exact .opens .object rfl ⟨nofun, nofun⟩ rfl hin nofun

/-- Every token moves the machine in one of these ways. -/
theorem moves_of_step {b b' : Builder} {token : Token} (hb : b.Formed)
    (h : b.step token = some b') : Moves b token b' := by
  obtain ⟨frames, expected⟩ := b
  have hinside {container : Container} (hin : expected.container? = some container) :
      outermost? ⟨frames, expected⟩ ≠ none := by
    rw [outermost?, hin]
    cases Frame.outermost? frames <;> simp
  have hclose (value : Document) (container : Container)
      (hvalue : value.container? = some container) (hin : expected.container? = some container) :
      Moves ⟨frames, expected⟩ container.closing (deliver value frames) :=
    .closes value frames container hvalue rfl rfl (by rw [outermost?, hin])
  have hpush (frame : Frame) (token : Token) (hin : expected.container? = some frame.container) :
      Moves ⟨frames, expected⟩ token ⟨frame :: frames, .value⟩ := by
    have hout : outermost? ⟨frame :: frames, .value⟩ = outermost? ⟨frames, expected⟩ := by
      rw [outermost?, Frame.outermost?_cons, outermost?, hin]
    exact .goesOn ⟨nofun, nofun⟩ (hinside hin) hout nofun
  simp only [step] at h
  split at h
  case h_1 => exact moves_of_beginValue Option.or_none h
  case h_2 =>
    cases h
    obtain ⟨around, haround⟩ := hb.opened rfl
    cases haround
    exact .closes (.array []) around .array rfl rfl rfl (Frame.outermost?_cons ..)
  case h_3 => exact moves_of_beginValue Option.or_none h
  case h_4 =>
    cases h
    exact .goesOn ⟨nofun, nofun⟩ (hinside rfl) rfl nofun
  case h_5 =>
    cases h
    exact .goesOn ⟨nofun, nofun⟩ (hinside rfl) rfl nofun
  case h_6 =>
    cases h
    exact hclose (.object []) .object rfl rfl
  case h_7 members name =>
    cases h
    exact hpush (.object members name) .colon rfl
  case h_8 items =>
    cases h
    exact hpush (.array items) .comma rfl
  case h_9 items =>
    cases h
    exact hclose (.array items.reverse) .array rfl rfl
  case h_10 =>
    cases h
    exact .goesOn ⟨nofun, nofun⟩ (hinside rfl) rfl nofun
  case h_11 members =>
    cases h
    exact hclose (.object members.reverse) .object rfl rfl
  case h_12 => cases h

namespace Moves
variable {b b' : Builder} {token : Token} (h : Moves b token b')
include h

theorem formed : b'.Formed := by
  cases h with
  | single value _ hmove _ => exact hmove ▸ formed_deliver value b.frames
  | opens _ _ hformed _ _ _ => exact hformed
  | closes value frames _ _ _ hmove _ => exact hmove ▸ formed_deliver value frames
  | goesOn hformed _ _ _ => exact hformed

/-- The container that was opened first stays open, or becomes the document. -/
theorem outermost?_eq {container : Container} (hb : b.outermost? = some container) :
    b'.outermost? = some container := by
  cases h with
  | single value hvalue hmove hin =>
    rw [hmove, outermost?_deliver, hvalue, Option.or_none, ← hin, hb]
  | opens _ _ _ hout hin _ => rw [hout, ← hin, hb, Option.some_or]
  | closes value frames _ hvalue _ hmove hin =>
    rw [hmove, outermost?_deliver, hvalue, ← hin, hb]
  | goesOn _ _ hin _ => rw [hin, hb]

/-- Nothing but the token that closes it completes a container. -/
theorem eq_closing {document : Document} {container : Container}
    (hexpected : b'.expected = .nothing document)
    (hdocument : document.container? = some container) : token = container.closing := by
  cases h with
  | single value hvalue hmove _ =>
    rw [hmove] at hexpected
    rw [eq_of_expected_deliver hexpected, hvalue] at hdocument
    cases hdocument
  | opens _ _ _ _ _ hnot => exact absurd hexpected (hnot document)
  | closes value frames _ hvalue htoken hmove _ =>
    rw [hmove] at hexpected
    rw [eq_of_expected_deliver hexpected, hvalue] at hdocument
    cases hdocument
    exact htoken
  | goesOn _ _ _ hnot => exact absurd hexpected (hnot document)

end Moves

/-- The machine stays in the container that was opened first. -/
theorem outermost?_foldlM {b b' : Builder} {tokens : List Token} (hb : b.Formed)
    (h : tokens.foldlM step b = some b') :
    b'.Formed ∧ ∀ container, b.outermost? = some container → b'.outermost? = some container := by
  induction tokens generalizing b with
  | nil =>
    cases h
    exact ⟨hb, fun _ hout => hout⟩
  | cons token tokens ih =>
    rw [List.foldlM_cons] at h
    obtain ⟨next, hstep, hrest⟩ := Option.bind_eq_some_iff.1 h
    have hmoves : Moves b token next := moves_of_step hb hstep
    obtain ⟨hformed, hout⟩ := ih hmoves.formed hrest
    exact ⟨hformed, fun container hcontainer => hout container (hmoves.outermost?_eq hcontainer)⟩

theorem formed_start : start.Formed :=
  ⟨nofun, nofun⟩

/-- Nothing follows a complete document. -/
theorem foldlM_of_nothing {b b' : Builder} {document : Document} {tokens : List Token}
    (hb : b.expected = .nothing document) (h : tokens.foldlM step b = some b') : b' = b := by
  cases tokens with
  | nil => exact (Option.some.inj h).symm
  | cons token tokens =>
    obtain ⟨frames, expected⟩ := b
    cases hb
    have hstep : step ⟨frames, .nothing document⟩ token = none := by cases token <;> rfl
    rw [List.foldlM_cons, hstep] at h
    cases h

end Builder

open Builder

theorem exists_of_ofTokens? {tokens : List Token} {document : Document}
    (h : ofTokens? tokens = some document) :
    ∃ b, tokens.foldlM step start = some b ∧ b.expected = .nothing document := by
  unfold ofTokens? at h
  split at h
  · next hrun =>
    cases h
    exact ⟨_, hrun, rfl⟩
  · cases h

/-- The tokens of an array or an object are between the two that open and close it. -/
theorem tokens_of_container {tokens : List Token} {document : Document} {container : Container}
    (h : ofTokens? tokens = some document) (hdocument : document.container? = some container) :
    tokens.head? = some container.opening ∧ tokens.getLast? = some container.closing := by
  obtain ⟨b, hrun, hexpected⟩ := exists_of_ofTokens? h
  constructor
  · cases tokens with
    | nil =>
      cases hrun
      cases hexpected
    | cons token tokens =>
      rw [List.foldlM_cons] at hrun
      obtain ⟨next, hstep, hrest⟩ := Option.bind_eq_some_iff.1 hrun
      cases moves_of_step formed_start hstep with
      | single value hvalue hmove _ =>
        have hnext : next.expected = .nothing value := by
          rw [hmove]
          rfl
        rw [foldlM_of_nothing hnext hrest, hnext] at hexpected
        cases hexpected
        cases hvalue.symm.trans hdocument
      | opens opened htoken hformed hout _ _ =>
        obtain ⟨hb, hkept⟩ := outermost?_foldlM hformed hrest
        have hopened : b.outermost? = some opened := hkept opened hout
        rw [outermost?, hb.complete document hexpected, hexpected] at hopened
        cases hopened.symm.trans hdocument
        rw [htoken, List.head?_cons]
      | closes _ frames _ _ _ _ hin =>
        have hnone : start.outermost? = none := rfl
        rw [hnone] at hin
        cases hframes : Frame.outermost? frames <;> rw [hframes] at hin <;> cases hin
      | goesOn _ hinside _ _ => exact absurd rfl hinside
  · rcases List.eq_nil_or_concat tokens with rfl | ⟨front, last, rfl⟩
    · cases hrun
      cases hexpected
    · rw [List.concat_eq_append, List.foldlM_append] at hrun
      obtain ⟨before, hfront, hlast⟩ := Option.bind_eq_some_iff.1 hrun
      have hstep : step before last = some b := by simpa using hlast
      have hmoves : Moves before last b :=
        moves_of_step (outermost?_foldlM formed_start hfront).1 hstep
      rw [List.concat_eq_append, List.getLast?_concat, hmoves.eq_closing hexpected hdocument]

end Document

/-! ### Texts -/

/-- The kind of a value that has others inside. -/
def container? : Json → Option Container
  | .array _ => some .array
  | .object _ => some .object
  | _ => none

theorem Document.container?_of_value? {document : Document} {room : Nat} {j : Json}
    (h : document.value? room = some j) : document.container? = j.container? := by
  cases document with
  | null | bool =>
    rw [value?] at h
    cases h
    rfl
  | number | string =>
    rw [value?] at h
    obtain ⟨_, -, rfl⟩ := Option.map_eq_some_iff.1 h
    rfl
  | array | object =>
    cases room with
    | zero => cases h
    | succ room =>
      rw [value?] at h
      obtain ⟨_, -, rfl⟩ := Option.map_eq_some_iff.1 h
      rfl

/-- **The text of an array or an object stands in brackets**, but for the blanks around it. -/
theorem brackets_of_parse? {text : String} {document : Document} {container : Container}
    (h : Document.parse? text = some document) (hdocument : document.container? = some container) :
    (text.toList.filter (!Token.isSpace ·)).head? = container.opening.mark? ∧
      (text.toList.filter (!Token.isSpace ·)).getLast? = container.closing.mark? := by
  obtain ⟨tokens, htokens, hof⟩ := Option.bind_eq_some_iff.1 h
  obtain ⟨hopening, hclosing⟩ := Document.tokens_of_container hof hdocument
  obtain ⟨more, rfl⟩ := List.head?_eq_some_iff.1 hopening
  obtain ⟨opens, hopens⟩ : ∃ opens, container.opening.mark? = some opens := by
    cases container <;> exact ⟨_, rfl⟩
  obtain ⟨closes, hcloses⟩ : ∃ closes, container.closing.mark? = some closes := by
    cases container <;> exact ⟨_, rfl⟩
  rw [hopens, hcloses]
  exact ⟨Token.head?_of_all? htokens hopens, Token.getLast?_of_all? htokens hclosing hcloses⟩

end Courier.Json
