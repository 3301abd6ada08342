import Mathlib.Data.List.TakeWhile
import Courier.Text.Blank
import Courier.Json.Document

/-! What the readers of numbers, words and strings take.

A reader takes characters off the front of a text, none of them a control character, and it looks
no further than at the character behind them. So it reads the same from every text that begins with
the characters it takes and goes on with the same character, all blanks and the end of the text
being alike in this (`Takes`). Readers put together from such readers are such readers
(`Takes.bind`, `Takes.either`), which comes down to one fact about every token (`takes_read?`). -/

namespace Courier.Json.Token

theorem isBlank_of_isSpace {c : Char} (h : isSpace c = true) : Text.isBlank c = true := by
  simp only [isSpace, Bool.or_eq_true, decide_eq_true_eq] at h
  rcases h with ((rfl | rfl) | rfl) | rfl <;> decide

/-- The next character, if it is not a blank. -/
def next? (cs : List Char) : Option Char :=
  cs.head?.filter fun c => !isSpace c

theorem next?_cons_of_isSpace {c : Char} (h : isSpace c = true) (cs : List Char) :
    next? (c :: cs) = none := by
  simp [next?, h]

theorem next?_eq_some_iff {c : Char} (hc : isSpace c = false) {cs : List Char} :
    next? cs = some c ↔ cs.head? = some c := by
  rw [next?, Option.filter_eq_some_iff, and_iff_left (by simp [hc])]

theorem head?_of_next? {rest rest' : List Char} (h : next? rest' = next? rest) {c : Char}
    (hc : isSpace c = false) (hhead : rest'.head? = some c) : rest.head? = some c := by
  rw [← next?_eq_some_iff hc] at hhead ⊢
  rw [← h, hhead]

theorem next?_append {rest rest' : List Char} (h : next? rest' = next? rest) (used : List Char) :
    next? (used ++ rest') = next? (used ++ rest) := by
  cases used with
  | nil => exact h
  | cons c used => rfl

/-- No character of the text is a control character. -/
def Printable (cs : List Char) : Prop :=
  ∀ c ∈ cs, 0x20 ≤ c.toNat

theorem printable_of_all {cs : List Char} (h : cs.all (fun c => 0x20 ≤ c.toNat) = true) :
    Printable cs :=
  fun c hc => of_decide_eq_true (List.all_eq_true.1 h c hc)

theorem Printable.cons {c : Char} {cs : List Char} (hc : 0x20 ≤ c.toNat) (h : Printable cs) :
    Printable (c :: cs) :=
  List.forall_mem_cons.2 ⟨hc, h⟩

theorem Printable.append {cs ds : List Char} (h : Printable cs) (h' : Printable ds) :
    Printable (cs ++ ds) :=
  fun c hc => (List.mem_append.1 hc).elim (h c) (h' c)

theorem Printable.notMem {cs : List Char} (h : Printable cs) {control : Char}
    (hcontrol : control.toNat < 0x20) : control ∉ cs :=
  fun hmem => absurd (h control hmem) (Nat.not_le.2 hcontrol)

variable {α β : Type}

/-- A reader takes no control characters, and nothing behind the characters that it takes counts
for it but the next one. -/
def Takes (read : List Char → Option (α × List Char)) : Prop :=
  ∀ ⦃cs x rest⦄, read cs = some (x, rest) → ∃ used, cs = used ++ rest ∧ Printable used ∧
    ∀ rest', next? rest' = next? rest → read (used ++ rest') = some (x, rest')

namespace Takes

theorem pure (x : α) : Takes fun cs => some (x, cs) := by
  intro cs y rest h
  cases h
  exact ⟨[], rfl, nofun, fun _ _ => rfl⟩

/-- One reader after another. -/
theorem bind {first : List Char → Option (α × List Char)}
    {second : α → List Char → Option (β × List Char)} (h : Takes first)
    (h' : ∀ x, Takes (second x)) : Takes fun cs => (first cs).bind fun r => second r.1 r.2 := by
  intro cs y rest hread
  obtain ⟨⟨x, middle⟩, hfirst, hsecond⟩ := Option.bind_eq_some_iff.1 hread
  obtain ⟨front, rfl, hfront, hagain⟩ := h hfirst
  obtain ⟨back, rfl, hback, hagain'⟩ := h' x hsecond
  refine ⟨front ++ back, by rw [List.append_assoc], hfront.append hback, fun rest' hrest' => ?_⟩
  dsimp only
  rw [List.append_assoc, hagain _ (next?_append hrest' back), Option.bind_some,
    hagain' rest' hrest']

theorem map (f : α → β) {read : List Char → Option (α × List Char)} (h : Takes read) :
    Takes fun cs => (read cs).map fun r => (f r.1, r.2) := by
  simp only [Option.map_eq_bind]
  exact h.bind fun x => pure (f x)

/-- A reader that does one thing or another, as the next character says. -/
theorem either {p : Char → Prop} (hp : ∀ c, p c → isSpace c = false ∧ 0x20 ≤ c.toNat)
    {read other : List Char → Option (α × List Char)}
    {behind : Char → List Char → Option (α × List Char)}
    (hbehind : ∀ c, p c → Takes (behind c)) (hother : Takes other)
    (hread : ∀ c cs, p c → read (c :: cs) = behind c cs)
    (hread' : ∀ cs, (∀ c, cs.head? = some c → ¬p c) → read cs = other cs) : Takes read := by
  intro cs x rest h
  by_cases hnext : ∀ c, cs.head? = some c → ¬p c
  · rw [hread' cs hnext] at h
    obtain ⟨used, rfl, hused, hagain⟩ := hother h
    refine ⟨used, rfl, hused, fun rest' hrest' => ?_⟩
    rw [hread' _ fun c hc hpc => ?_, hagain rest' hrest']
    exact hnext c (head?_of_next? (next?_append hrest' used) (hp c hpc).1 hc) hpc
  · simp only [not_forall, not_not] at hnext
    obtain ⟨c, hc, hpc⟩ := hnext
    obtain ⟨cs, rfl⟩ := List.head?_eq_some_iff.1 hc
    rw [hread c cs hpc] at h
    obtain ⟨used, rfl, hused, hagain⟩ := hbehind c hpc h
    refine ⟨c :: used, rfl, .cons (hp c hpc).2 hused, fun rest' hrest' => ?_⟩
    rw [List.cons_append, hread c _ hpc, hagain rest' hrest']

/-- A reader that looks for one character first. -/
theorem ifNext (first : Char) (hfirst : isSpace first = false ∧ 0x20 ≤ first.toNat)
    {read behind other : List Char → Option (α × List Char)} (hbehind : Takes behind)
    (hother : Takes other) (hread : ∀ cs, read (first :: cs) = behind cs)
    (hread' : ∀ cs, cs.head? ≠ some first → read cs = other cs) : Takes read :=
  either (p := (· = first)) (fun _ hc => hc ▸ hfirst) (fun _ _ => hbehind) hother
    (fun _ cs hc => hc ▸ hread cs) fun cs hcs => hread' cs fun hc => hcs first hc rfl

/-- What a reader takes begins with the first character of the text, if it takes anything. -/
theorem cons {read : List Char → Option (α × List Char)} (h : Takes read) {c : Char}
    {cs rest : List Char} {x : α} (hread : read (c :: cs) = some (x, rest))
    (hlength : rest.length < (c :: cs).length) : ∃ used, cs = used ++ rest ∧ Printable (c :: used) ∧
      ∀ rest', next? rest' = next? rest → read (c :: (used ++ rest')) = some (x, rest') := by
  obtain ⟨used, hcs, hused, hagain⟩ := h hread
  cases used with
  | nil => exact absurd (hcs ▸ hlength) (Nat.lt_irrefl _)
  | cons d used =>
    cases hcs
    exact ⟨used, rfl, hused, hagain⟩

end Takes

end Courier.Json.Token

/-! ### Numbers -/

namespace Courier.Json.Numeral

open Token

theorem toNat_of_isDigit {c : Char} (h : c.isDigit = true) :
    0x30 ≤ c.toNat ∧ c.toNat ≤ 0x39 := by
  simp only [Char.isDigit, Bool.and_eq_true, decide_eq_true_eq, UInt32.le_iff_toNat_le] at h
  exact h

theorem isBlank_of_isDigit {c : Char} (h : c.isDigit = true) : Text.isBlank c = false := by
  have hrange := toNat_of_isDigit h
  rw [Bool.eq_false_iff]
  intro hblank
  simp only [Text.isBlank, Bool.or_eq_true, Bool.and_eq_true, decide_eq_true_eq, beq_iff_eq]
    at hblank
  omega

theorem isSpace_of_isDigit {c : Char} (h : c.isDigit = true) :
    isSpace c = false ∧ 0x20 ≤ c.toNat := by
  refine ⟨?_, (Nat.le_of_lt (by decide)).trans (toNat_of_isDigit h).1⟩
  rw [Bool.eq_false_iff]
  intro hspace
  exact absurd ((isBlank_of_isSpace hspace).symm.trans (isBlank_of_isDigit h)) (by decide)

theorem readDigits_append {ds rest : List Char} (hds : ∀ c ∈ ds, c.isDigit = true)
    (hrest : ∀ c, rest.head? = some c → c.isDigit = false) :
    readDigits (ds ++ rest) = (ds, rest) := by
  have hstop : rest.takeWhile Char.isDigit = [] ∧ rest.dropWhile Char.isDigit = rest := by
    cases rest with
    | nil => exact ⟨rfl, rfl⟩
    | cons c rest => simp [hrest c rfl]
  rw [readDigits, List.takeWhile_append_of_pos hds, List.dropWhile_append_of_pos hds, hstop.1,
    hstop.2, List.append_nil]

theorem takes_readDigits : Takes fun cs => some (readDigits cs) := by
  intro cs ds rest h
  cases h
  have hdigits : ∀ c ∈ cs.takeWhile Char.isDigit, c.isDigit = true :=
    fun _ => List.mem_takeWhile_imp
  refine ⟨cs.takeWhile Char.isDigit, List.takeWhile_append_dropWhile.symm,
    fun c hc => (isSpace_of_isDigit (hdigits c hc)).2, fun rest' hrest' => ?_⟩
  dsimp only
  rw [readDigits_append hdigits]
  intro c hc
  rw [Bool.eq_false_iff]
  intro hdigit
  have hhead := List.head?_dropWhile_not Char.isDigit cs
  rw [head?_of_next? hrest' (isSpace_of_isDigit hdigit).1 hc] at hhead
  exact absurd (hdigit.symm.trans hhead) (by decide)

/-- Digits, of which there must be one. -/
theorem takes_someDigits : Takes fun cs =>
    if (readDigits cs).1.isEmpty then none else some (readDigits cs) := by
  intro cs ds rest h
  dsimp only at h
  split at h
  · cases h
  · next hne =>
    obtain ⟨used, hused, hprintable, hagain⟩ := takes_readDigits h
    refine ⟨used, hused, hprintable, fun rest' hrest' => ?_⟩
    have hagain : readDigits (used ++ rest') = (ds, rest') := Option.some.inj (hagain rest' hrest')
    rw [Option.some.inj h] at hne
    dsimp only
    rw [hagain, if_neg hne]

theorem takes_readWhole? : Takes readWhole? := by
  refine .ifNext '0' (by decide) (.pure ['0']) takes_someDigits (fun _ => rfl) fun cs hcs => ?_
  unfold readWhole?
  split
  · exact absurd rfl hcs
  · rfl

theorem takes_readFraction? : Takes readFraction? := by
  refine .ifNext '.' (by decide) takes_someDigits (.pure []) (fun _ => rfl) fun cs hcs => ?_
  unfold readFraction?
  split
  · exact absurd rfl hcs
  · rfl

theorem takes_readSign : Takes fun cs => some (readSign cs) := by
  have hsign (c : Char) : Takes fun cs => some (decide (c = '-'), cs) := .pure (decide (c = '-'))
  refine Takes.either (p := fun c => c = '-' ∨ c = '+') ?_ (fun c _ => hsign c) (.pure false) ?_ ?_
  · intro c hc
    rcases hc with rfl | rfl <;> decide
  · intro c cs hc
    rcases hc with rfl | rfl <;> rfl
  · intro cs hcs
    unfold readSign
    split
    · exact absurd (.inl rfl) (hcs '-' rfl)
    · exact absurd (.inr rfl) (hcs '+' rfl)
    · rfl

theorem takes_readExponent? : Takes readExponent? := by
  have hbehind := takes_readSign.bind fun negative =>
    takes_someDigits.map fun ds => some (negative, ds)
  refine Takes.either (p := fun c => c = 'e' ∨ c = 'E') ?_ (fun _ _ => hbehind) (.pure none) ?_ ?_
  · intro c hc
    rcases hc with rfl | rfl <;> decide
  · intro c cs hc
    rw [readExponent?, if_pos hc, Option.bind_some]
    dsimp only
    split <;> rfl
  · intro cs hcs
    unfold readExponent?
    split
    · next c cs => rw [if_neg (hcs c rfl)]
    · rfl

theorem takes_readUnsigned? (negative : Bool) : Takes (readUnsigned? negative) :=
  takes_readWhole?.bind fun whole => takes_readFraction?.bind fun fraction =>
    takes_readExponent?.bind fun exponent => .pure (⟨negative, whole, fraction, exponent⟩ : Numeral)

theorem takes_read? : Takes read? := by
  refine .ifNext '-' (by decide) (takes_readUnsigned? true) (takes_readUnsigned? false)
    (fun _ => rfl) fun cs hcs => ?_
  unfold read?
  split
  · exact absurd rfl hcs
  · rfl

end Courier.Json.Numeral

/-! ### Words and strings -/

namespace Courier.Json.Token

theorem takes_word? : Takes word? := by
  have hword (word : String) (token : Token)
      (hword : ∀ rest, word? (word.toList ++ rest) = some (token, rest))
      (hprintable : Printable word.toList) {cs : List Char} {n : Nat}
      (hn : n = word.toList.length) (h : word.toList.isPrefixOf cs = true) :
      ∃ used, cs = used ++ cs.drop n ∧ Printable used ∧
        ∀ rest', next? rest' = next? (cs.drop n) → word? (used ++ rest') = some (token, rest') := by
    obtain ⟨rest, rfl⟩ := List.isPrefixOf_iff_prefix.1 h
    rw [hn, List.drop_left]
    exact ⟨word.toList, rfl, hprintable, fun rest' _ => hword rest'⟩
  intro cs token rest h
  unfold word? at h
  split at h
  · next hnull =>
    cases h
    exact hword "null" .null (fun _ => rfl) (printable_of_all (by decide)) rfl hnull
  · split at h
    · next htrue =>
      cases h
      exact hword "true" (.bool true) (fun _ => rfl) (printable_of_all (by decide)) rfl htrue
    · split at h
      · next hfalse =>
        cases h
        exact hword "false" (.bool false) (fun _ => rfl) (printable_of_all (by decide)) rfl hfalse
      · cases h

theorem printable_of_escaped? {e c : Char} (h : escaped? e = some c) :
    e ≠ 'u' ∧ 0x20 ≤ e.toNat := by
  unfold escaped? at h
  split at h
  case h_9 => cases h
  all_goals decide

theorem printable_of_value? {c : Char} {n : Nat} (h : Hex.value? c = some n) : 0x20 ≤ c.toNat := by
  have hle {first : Char} (hfirst : first ≤ c) (hprintable : 0x20 ≤ first.toNat) : 0x20 ≤ c.toNat :=
    hprintable.trans (UInt32.le_iff_toNat_le.1 hfirst)
  unfold Hex.value? at h
  split at h
  · next hdigit => exact (Numeral.isSpace_of_isDigit hdigit).2
  · split at h
    · next hlower => exact hle hlower.1 (by decide)
    · split at h
      · next hupper => exact hle hupper.1 (by decide)
      · cases h

theorem printable_of_unit? {a b c d : Char} {n : Nat} (h : unit? a b c d = some n) :
    Printable [a, b, c, d] := by
  simp only [unit?, Option.bind_eq_bind, Option.bind_eq_some_iff] at h
  obtain ⟨_, ha, _, hb, _, hc, _, hd, -⟩ := h
  exact .cons (printable_of_value? ha) <| .cons (printable_of_value? hb) <|
    .cons (printable_of_value? hc) <| .cons (printable_of_value? hd) nofun

theorem takes_readPieces? : Takes readPieces? := by
  intro cs ps rest h
  fun_induction readPieces? cs generalizing ps rest with
  | case1 => cases h
  | case2 cs =>
    cases h
    exact ⟨['"'], rfl, printable_of_all (by decide), fun _ _ => rfl⟩
  | case3 a b c d cs n ps after hread hunit ih =>
    -- A backslash, the letter and four digits are taken before the rest of the string.
    cases h
    obtain ⟨used, rfl, hused, hagain⟩ := ih hread
    have hfront : Printable ['\\', 'u'] := printable_of_all (by decide)
    refine ⟨['\\', 'u'] ++ [a, b, c, d] ++ used, rfl,
      (hfront.append (printable_of_unit? hunit)).append hused, fun rest' hrest' => ?_⟩
    simp [readPieces?, hunit, hagain rest' hrest']
  | case4 => cases h
  | case5 e cs _ c ps after hread hescaped ih =>
    cases h
    obtain ⟨used, rfl, hused, hagain⟩ := ih hread
    obtain ⟨hne, he⟩ := printable_of_escaped? hescaped
    refine ⟨'\\' :: e :: used, rfl, .cons (by decide) (.cons he hused), fun rest' hrest' => ?_⟩
    simp [readPieces?, hne, hescaped, hagain rest' hrest']
  | case6 => cases h
  | case7 => cases h
  | case8 c cs hquote _ _ hc ps after hread ih =>
    cases h
    obtain ⟨used, rfl, hused, hagain⟩ := ih hread
    obtain ⟨hprintable, hne⟩ := not_or.1 hc
    refine ⟨c :: used, rfl, .cons (Nat.le_of_not_lt hprintable) hused, fun rest' hrest' => ?_⟩
    simp [readPieces?, hne, hprintable, hagain rest' hrest']
  | case9 => cases h

/-! ### Tokens -/

/-- What a token takes, and that it is the same whatever stands behind the next character. -/
theorem takes_read? {c : Char} {cs rest : List Char} {token : Token}
    (h : read? c cs = some (token, rest)) : ∃ used, cs = used ++ rest ∧ Printable (c :: used) ∧
      ∀ rest', next? rest' = next? rest → read? c (used ++ rest') = some (token, rest') := by
  unfold read? at h
  split at h
  case h_7 =>
    have htakes := takes_readPieces?.map fun ps => Token.string ((joinPieces? ps).map String.ofList)
    obtain ⟨used, rfl, hused, hagain⟩ := htakes h
    exact ⟨used, rfl, .cons (by decide) hused, hagain⟩
  case h_8 =>
    split at h
    · next hc =>
      have hlength : rest.length < (c :: cs).length := by
        obtain ⟨r, hr, hrest⟩ := Option.map_eq_some_iff.1 h
        cases hrest
        exact Numeral.length_read? hr
      have htakes := Numeral.takes_read?.map fun n => Token.number n.value?
      obtain ⟨used, rfl, hused, hagain⟩ := htakes.cons h hlength
      refine ⟨used, rfl, hused, fun rest' hrest' => ?_⟩
      simpa [read?, hc] using hagain rest' hrest'
    · next hc =>
      obtain ⟨used, rfl, hused, hagain⟩ := takes_word?.cons h (length_word? h)
      refine ⟨used, rfl, hused, fun rest' hrest' => ?_⟩
      simpa [read?, hc] using hagain rest' hrest'
  all_goals
    cases h
    exact ⟨[], rfl, .cons (by decide) nofun, fun _ _ => rfl⟩

/-! ### Texts -/

theorem all?_cons_of_isSpace {c : Char} (h : isSpace c = true) (cs : List Char) :
    all? (c :: cs) = all? cs := by
  rw [all?, if_pos h]

theorem all?_cons {c : Char} (h : isSpace c = false) (cs : List Char) :
    all? (c :: cs) = (read? c cs).bind fun r => (all? r.2).map (r.1 :: ·) := by
  rw [all?, if_neg (by simp [h])]
  split
  · next hread => rw [hread, Option.bind_none]
  · next hread => simp only [hread, Option.bind_some]

/-- The first token of a text, and the ones behind it. -/
theorem exists_of_all?_cons {c : Char} {cs : List Char} {tokens : List Token}
    (hc : isSpace c = false) (h : all? (c :: cs) = some tokens) :
    ∃ token rest more, read? c cs = some (token, rest) ∧ all? rest = some more ∧
      tokens = token :: more := by
  rw [all?_cons hc] at h
  obtain ⟨⟨token, rest⟩, hread, hrest⟩ := Option.bind_eq_some_iff.1 h
  obtain ⟨more, hmore, hcons⟩ := Option.map_eq_some_iff.1 hrest
  exact ⟨token, rest, more, hread, hmore, hcons.symm⟩

/-- A text without tokens is blank. -/
theorem isSpace_of_all? {cs : List Char} (h : all? cs = some []) : ∀ c ∈ cs, isSpace c = true := by
  induction cs with
  | nil => nofun
  | cons c cs ih =>
    cases hc : isSpace c with
    | true =>
      rw [all?_cons_of_isSpace hc] at h
      exact List.forall_mem_cons.2 ⟨hc, ih h⟩
    | false =>
      obtain ⟨_, _, _, -, -, hcons⟩ := exists_of_all?_cons hc h
      cases hcons

end Courier.Json.Token
