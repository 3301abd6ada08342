import Courier.Json.Printer
import Courier.Proofs.Json.Reading

/-! The text of a value reads back.

The text of a string is read character by character (`exists_writes_escapeChar`) and that of a whole
number as its sign and its digits (`read?_renderInt`). What a text does to the machine that puts
documents together (`Builder.feed`) is told value by value: behind the text of a value the machine
is where it is once the value has gone to what is open around it (`Builder.reads`). So the text of
every value without floating-point numbers is that of its document (`parse?_render`). -/

/-! ### Strings -/

namespace Courier.Hex

theorem value?_digit {n : Nat} (h : n < 16) : value? (digit n) = some n :=
  (by decide : ∀ n < 16, value? (digit n) = some n) n h

end Courier.Hex

namespace Courier.Json.Token

/-- A unit below the surrogates is a character by itself. -/
theorem joinPieces?_unit {n : Nat} (h : n < 0xD800) (ps : List Piece) :
    joinPieces? (.unit n :: ps) = (joinPieces? ps).map (Char.ofNat n :: ·) := by
  have hlow : ¬0xD800 ≤ n := Nat.not_le.2 h
  have hlow' : ¬0xDC00 ≤ n := by omega
  cases ps with
  | nil => simp [joinPieces?, hlow]
  | cons p ps =>
    cases p with
    | char c => simp [joinPieces?, hlow]
    | unit low =>
      rw [joinPieces?, if_neg fun hsurrogate => hlow hsurrogate.1,
        if_neg fun hsurrogate => hlow' hsurrogate.1]

/-- A piece writes a character, as it is read and as it is joined to others. -/
structure Writes (used : List Char) (p : Piece) (c : Char) : Prop where
  read : ∀ cs ps rest, readPieces? cs = some (ps, rest) →
    readPieces? (used ++ cs) = some (p :: ps, rest)
  join : ∀ ps, joinPieces? (p :: ps) = (joinPieces? ps).map (c :: ·)

theorem writes_escaped {e c : Char} (h : escaped? e = some c) : Writes ['\\', e] (.char c) c where
  read := fun cs ps rest hread => by
    simp [readPieces?, (printable_of_escaped? h).1, h, hread]
  join := fun _ => rfl

theorem writes_plain {c : Char} (hquote : c ≠ '"') (hslash : c ≠ '\\') (hc : ¬c.toNat < 0x20) :
    Writes [c] (.char c) c where
  read := fun cs ps rest hread => by
    simp [readPieces?, hslash, hc, hread]
  join := fun _ => rfl

theorem writes_unit {c : Char} (h : c.toNat < 0x20) :
    Writes ['\\', 'u', '0', '0', Hex.digit (c.toNat / 16), Hex.digit (c.toNat % 16)]
      (.unit c.toNat) c where
  read := fun cs ps rest hread => by
    have hzero : Hex.value? '0' = some 0 := Hex.value?_digit (show 0 < 16 by decide)
    have hunit : unit? '0' '0' (Hex.digit (c.toNat / 16)) (Hex.digit (c.toNat % 16)) =
        some c.toNat := by
      simp only [unit?, hzero, Hex.value?_digit (show c.toNat / 16 < 16 by omega),
        Hex.value?_digit (show c.toNat % 16 < 16 by omega), Option.bind_eq_bind, Option.bind_some,
        Option.pure_def, Option.some.injEq]
      omega
    simp [readPieces?, hunit, hread]
  join := fun ps => by
    rw [joinPieces?_unit (by omega), Char.ofNat_toNat]

theorem exists_writes_escapeChar (c : Char) : ∃ p, Writes (escapeChar c) p c := by
  unfold escapeChar
  split
  · next h =>
    subst h
    exact ⟨.char '"', writes_escaped rfl⟩
  split
  · next h =>
    subst h
    exact ⟨.char '\\', writes_escaped rfl⟩
  split
  · next h =>
    unfold escapeControl
    split
    case h_6 => exact ⟨_, writes_unit h⟩
    all_goals exact ⟨_, writes_escaped rfl⟩
  · next hquote hslash h => exact ⟨_, writes_plain hquote hslash h⟩

theorem exists_pieces (cs rest : List Char) : ∃ ps,
    readPieces? (cs.flatMap escapeChar ++ '"' :: rest) = some (ps, rest) ∧
      joinPieces? ps = some cs := by
  induction cs with
  | nil => exact ⟨[], rfl, rfl⟩
  | cons c cs ih =>
    obtain ⟨ps, hread, hjoin⟩ := ih
    obtain ⟨p, hp⟩ := exists_writes_escapeChar c
    refine ⟨p :: ps, ?_, ?_⟩
    · rw [List.flatMap_cons, List.append_assoc, hp.read _ _ _ hread]
    · rw [hp.join, hjoin, Option.map_some]

/-- The text of a string is read behind its first quote. -/
theorem read?_string (s : String) (rest : List Char) :
    read? '"' (s.toList.flatMap escapeChar ++ '"' :: rest) = some (.string (some s), rest) := by
  obtain ⟨ps, hread, hjoin⟩ := exists_pieces s.toList rest
  have hquote (cs : List Char) : read? '"' cs = (readPieces? cs).map fun r =>
    (.string ((joinPieces? r.1).map String.ofList), r.2) := rfl
  rw [hquote, hread, Option.map_some]
  dsimp only
  rw [hjoin, Option.map_some, String.ofList_toList]

end Courier.Json.Token

/-! ### Whole numbers -/

namespace Courier.Json.Numeral

theorem isDigit_of_mem_digits {n : Nat} {c : Char} (h : c ∈ Decimal.digits n) :
    c.isDigit = true :=
  Nat.isDigit_of_mem_toDigits (by decide) (by decide) h

theorem head?_digits_append (n : Nat) (rest : List Char) :
    (Decimal.digits n ++ rest).head? = (Decimal.digits n).head? := by
  obtain ⟨c, ds, hds⟩ := List.exists_cons_of_ne_nil
    (show Decimal.digits n ≠ [] from Nat.toDigits_ne_nil)
  rw [hds]
  rfl

/-- Only zero begins with a zero. -/
theorem head?_digits {n : Nat} (h : 0 < n) : (Decimal.digits n).head? ≠ some '0' := by
  induction n using Nat.strongRecOn with
  | ind n ih =>
    by_cases hn : n < 10
    · rw [Decimal.digits, Nat.toDigits_of_lt_base hn]
      exact (by decide : ∀ n < 10, 0 < n → [n.digitChar].head? ≠ some '0') n hn h
    · have hdigits : Decimal.digits n = Decimal.digits (n / 10) ++ [(n % 10).digitChar] :=
        Nat.toDigits_of_base_le (by decide) (Nat.le_of_not_lt hn)
      rw [hdigits, head?_digits_append]
      exact ih (n / 10) (by omega) (by omega)

theorem natOf_digits (n : Nat) : natOf (Decimal.digits n) = n := by
  have hvalue : Nat.ofDigitChars 10 (Decimal.digits n) 0 = n :=
    Nat.ofDigitChars_toDigits (by decide) (by decide)
  simp only [natOf, Nat.mul_comm _ 10]
  exact hvalue

theorem le_foldl_digitValue (n : Nat) (ds : List Char) :
    n ≤ ds.foldl (fun n c => n * 10 + digitValue c) n := by
  induction ds generalizing n with
  | nil => exact Nat.le_refl n
  | cons c ds ih => exact Nat.le_trans (by omega) (ih (n * 10 + digitValue c))

/-- All digits are taken up if sixty-four bits hold what they write. -/
theorem absorb_eq {n : Nat} {ds : List Char}
    (h : ds.foldl (fun n c => n * 10 + digitValue c) n < UInt64.size) :
    absorb n ds = (ds.foldl (fun n c => n * 10 + digitValue c) n, []) := by
  induction ds generalizing n with
  | nil => rfl
  | cons c ds ih =>
    rw [absorb, if_pos (Nat.lt_of_le_of_lt (le_foldl_digitValue _ ds) h), ih h, List.foldl_cons]

/-- Sixty-four bits hold the number, with or without a sign. -/
def Fits (n : Int) : Prop :=
  -(UInt64.size : Int) ≤ 2 * n ∧ n < UInt64.size

instance (n : Int) : Decidable (Fits n) :=
  inferInstanceAs (Decidable (_ ∧ _))

/-- No character follows, or one that stands behind a value. -/
def Ends (rest : List Char) : Prop :=
  ∀ c, rest.head? = some c → c = ',' ∨ c = ']' ∨ c = '}'

theorem ends_cons {c : Char} (h : c = ',' ∨ c = ']' ∨ c = '}') (rest : List Char) :
    Ends (c :: rest) := by
  intro d hd
  cases hd
  exact h

variable {rest : List Char}

theorem readWhole?_digits (hrest : Ends rest) (n : Nat) :
    readWhole? (Decimal.digits n ++ rest) = some (Decimal.digits n, rest) := by
  have hread : readDigits (Decimal.digits n ++ rest) = (Decimal.digits n, rest) := by
    refine readDigits_append (fun c hc => isDigit_of_mem_digits hc) fun c hc => ?_
    rcases hrest c hc with rfl | rfl | rfl <;> decide
  by_cases hn : n = 0
  · subst hn
    rfl
  · have hne : Decimal.digits n ≠ [] := Nat.toDigits_ne_nil
    unfold readWhole?
    split
    · next cs hzero =>
      refine absurd ?_ (head?_digits (Nat.pos_of_ne_zero hn))
      rw [← head?_digits_append n rest, hzero, List.head?_cons]
    · rw [hread]
      simp [hne]

theorem readUnsigned?_digits (hrest : Ends rest) (negative : Bool) (n : Nat) :
    readUnsigned? negative (Decimal.digits n ++ rest) =
      some (⟨negative, Decimal.digits n, [], none⟩, rest) := by
  have hfraction : readFraction? rest = some ([], rest) := by
    unfold readFraction?
    split
    · exact absurd (hrest '.' rfl) (by decide)
    · rfl
  have hexponent : readExponent? rest = some (none, rest) := by
    unfold readExponent?
    split
    · next c cs =>
      rw [if_neg]
      rcases hrest c rfl with rfl | rfl | rfl <;> decide
    · rfl
  simp [readUnsigned?, readWhole?_digits hrest, hfraction, hexponent]

/-- The text of a whole number is read as its sign and its digits. -/
theorem read?_renderInt (hrest : Ends rest) (n : Int) :
    read? (renderInt n ++ rest) = some (⟨n < 0, Decimal.digits n.natAbs, [], none⟩, rest) := by
  unfold renderInt
  by_cases hn : n < 0
  · rw [if_pos hn, decide_eq_true hn, List.append_assoc]
    exact readUnsigned?_digits hrest true n.natAbs
  · rw [if_neg hn, decide_eq_false hn, List.nil_append]
    unfold read?
    split
    · next cs hminus =>
      have hhead : (Decimal.digits n.natAbs).head? = some '-' := by
        rw [← head?_digits_append n.natAbs rest, hminus, List.head?_cons]
      exact absurd (isDigit_of_mem_digits (List.mem_of_head? hhead)) (by decide)
    · exact readUnsigned?_digits hrest false n.natAbs

theorem value?_digits {n : Int} (h : Fits n) :
    value? ⟨n < 0, Decimal.digits n.natAbs, [], none⟩ = some (.whole n) := by
  obtain ⟨hlow, hhigh⟩ := h
  have habsorb : absorb 0 (Decimal.digits n.natAbs) = (n.natAbs, []) := by
    have hfits : natOf (Decimal.digits n.natAbs) < UInt64.size := by
      rw [natOf_digits]
      omega
    rw [absorb_eq hfits]
    exact congrArg (·, []) (natOf_digits n.natAbs)
  unfold value?
  dsimp only
  rw [habsorb]
  by_cases hn : n < 0
  · have hbound : 0 < n.natAbs ∧ 2 * n.natAbs ≤ UInt64.size := by omega
    have habs : -(n.natAbs : Int) = n := by omega
    rw [if_neg fun h => h.2.2 (decide_eq_true hn), if_pos ⟨rfl, rfl, hbound⟩, habs]
  · have habs : (n.natAbs : Int) = n := by omega
    rw [if_pos ⟨rfl, rfl, by simpa using hn⟩, habs]

end Courier.Json.Numeral

namespace Courier.Json.Token

open Numeral

/-- The first character of a whole number sends the reader to its numeral. -/
theorem exists_read?_renderInt {n : Int} (h : Fits n) {rest : List Char} (hrest : Ends rest) :
    ∃ c cs, renderInt n ++ rest = c :: cs ∧ isSpace c = false ∧
      read? c cs = some (.number (some (.whole n)), rest) := by
  have hhead {c : Char} {cs : List Char} (hcs : renderInt n ++ rest = c :: cs)
      (hc : c = '-' ∨ c.isDigit = true) :
      read? c cs = some (.number (some (.whole n)), rest) := by
    have hnumber : read? c cs =
        (Numeral.read? (c :: cs)).map fun r => (.number r.1.value?, r.2) := by
      unfold read?
      split
      case h_8 => rw [if_pos hc]
      all_goals exact absurd hc (by decide)
    rw [hnumber, ← hcs, read?_renderInt hrest, Option.map_some]
    dsimp only
    rw [value?_digits h]
  by_cases hn : n < 0
  · have hcs : renderInt n ++ rest = '-' :: (Decimal.digits n.natAbs ++ rest) := by
      rw [renderInt, if_pos hn]
      rfl
    exact ⟨_, _, hcs, by decide, hhead hcs (.inl rfl)⟩
  · obtain ⟨c, ds, hds⟩ := List.exists_cons_of_ne_nil
      (show Decimal.digits n.natAbs ≠ [] from Nat.toDigits_ne_nil)
    have hdigit : c.isDigit = true := isDigit_of_mem_digits (hds ▸ List.mem_cons_self)
    have hcs : renderInt n ++ rest = c :: (ds ++ rest) := by
      rw [renderInt, if_neg hn, hds]
      rfl
    exact ⟨_, _, hcs, (isSpace_of_isDigit hdigit).1, hhead hcs (.inr hdigit)⟩

end Courier.Json.Token

/-! ### Values -/

namespace Courier.Json

open Numeral

/-- Every number in the value is whole. -/
inductive Exact : Json → Prop where
  | null : Exact .null
  | bool (b : Bool) : Exact (.bool b)
  | number {n : Int} (h : Fits n) : Exact (.number (.whole n))
  | string (s : String) : Exact (.string s)
  | array {items : List Json} (h : ∀ item ∈ items, Exact item) : Exact (.array items)
  | object {members : List (String × Json)} (h : ∀ m ∈ members, Exact m.2) :
    Exact (.object members)

namespace Document

open Token

namespace Builder

/-- The machine after the tokens of a text. -/
def feed (b : Builder) (cs : List Char) : Option Builder :=
  (all? cs).bind (·.foldlM step b)

section
variable {b b' : Builder} {rest : List Char}

theorem feed_nil : b.feed [] = some b := by
  rw [feed, all?]
  rfl

theorem feed_cons {c : Char} {cs : List Char} {token : Token} (hc : isSpace c = false)
    (hread : read? c cs = some (token, rest)) (hstep : b.step token = some b') :
    b.feed (c :: cs) = b'.feed rest := by
  rw [feed, all?_cons hc, hread, Option.bind_some]
  cases hrest : all? rest with
  | none => simp [feed, hrest]
  | some tokens => simp [feed, hrest, hstep]

theorem feed_string {s : String} (hstep : b.step (.string (some s)) = some b') :
    b.feed (renderString s ++ rest) = b'.feed rest := by
  have hrender : renderString s ++ rest = '"' :: (s.toList.flatMap escapeChar ++ '"' :: rest) := by
    simp [renderString]
  rw [hrender]
  exact feed_cons (by decide) (read?_string s rest) hstep

end

/-- What stands behind the text of the value finds the machine where the value has gone to what is
open around it. -/
def Reads (j : Json) : Prop :=
  ∀ frames expected rest, expected = .value ∨ expected = .valueOrEnd → Ends rest →
    feed ⟨frames, expected⟩ (j.renderChars ++ rest) = feed (deliver (ofJson j) frames) rest

theorem deliver_array (value : Document) (items : List Document) (frames : List Frame) :
    deliver value (.array items :: frames) = ⟨frames, .afterItem (value :: items)⟩ :=
  rfl

theorem deliver_object (value : Document) (members : List (Option String × Document))
    (name : Option String) (frames : List Frame) :
    deliver value (.object members name :: frames) =
      ⟨frames, .afterMember ((name, value) :: members)⟩ :=
  rfl

theorem step_of_begins {frames : List Frame} {expected : Expected}
    (h : expected = .value ∨ expected = .valueOrEnd) {token : Token}
    (htoken : token ≠ .closeBracket) :
    step ⟨frames, expected⟩ token = beginValue frames token := by
  rcases h with rfl | rfl
  · rfl
  · cases token <;> first | rfl | exact absurd rfl htoken

theorem feed_items {items : List Json} (hne : items ≠ []) (hreads : ∀ item ∈ items, Reads item)
    (frames : List Frame) (rest : List Char) (done : List Document) {expected : Expected}
    (hexpected : expected = .value ∨ expected = .valueOrEnd) :
    feed ⟨.array done :: frames, expected⟩ (renderItems items ++ ']' :: rest) =
      feed (deliver (.array (done.reverse ++ ofItems items)) frames) rest := by
  induction items generalizing done expected with
  | nil => exact absurd rfl hne
  | cons item items ih =>
    obtain ⟨hitem, hitems⟩ := List.forall_mem_cons.1 hreads
    -- Behind the last item stands the bracket, behind every other one a comma.
    cases items with
    | nil =>
      rw [renderItems, hitem _ _ _ hexpected (ends_cons (by simp) rest), deliver_array]
      exact feed_cons (by decide) rfl (by simp [step, ofItems])
    | cons next items =>
      rw [renderItems, List.append_assoc, List.cons_append,
        hitem _ _ _ hexpected (ends_cons (by simp) _), deliver_array,
        feed_cons (by decide) rfl rfl, ih (List.cons_ne_nil _ _) hitems _ (.inl rfl)]
      · simp [ofItems]
      · exact List.cons_ne_nil _ _

theorem feed_members {members : List (String × Json)} (hne : members ≠ [])
    (hreads : ∀ m ∈ members, Reads m.2) (frames : List Frame) (rest : List Char)
    (done : List (Option String × Document)) {expected : Expected}
    (hexpected : ∀ s, step ⟨frames, expected⟩ (.string s) = some ⟨frames, .colon done s⟩) :
    feed ⟨frames, expected⟩ (renderMembers members ++ '}' :: rest) =
      feed (deliver (.object (done.reverse ++ ofMemberList members)) frames) rest := by
  induction members generalizing done expected with
  | nil => exact absurd rfl hne
  | cons member members ih =>
    obtain ⟨name, value⟩ := member
    obtain ⟨hvalue, hvalues⟩ := List.forall_mem_cons.1 hreads
    cases members with
    | nil =>
      rw [renderMembers, List.append_assoc, feed_string (hexpected _), List.cons_append,
        feed_cons (by decide) rfl rfl, hvalue _ _ _ (.inl rfl) (ends_cons (by simp) rest),
        deliver_object]
      exact feed_cons (by decide) rfl (by simp [step, ofMemberList])
    | cons next members =>
      rw [renderMembers, List.append_assoc, List.append_assoc, feed_string (hexpected _),
        List.cons_append, feed_cons (by decide) rfl rfl, List.cons_append,
        hvalue _ _ _ (.inl rfl) (ends_cons (by simp) _), deliver_object,
        feed_cons (by decide) rfl rfl, ih (List.cons_ne_nil _ _) hvalues _ fun _ => rfl]
      · simp [ofMemberList]
      · exact List.cons_ne_nil _ _

theorem reads {j : Json} (h : Exact j) : Reads j := by
  induction h with
  | null =>
    intro frames expected rest hexpected _
    exact feed_cons (by decide) rfl (step_of_begins hexpected (by simp))
  | bool b =>
    intro frames expected rest hexpected _
    cases b <;> exact feed_cons (by decide) rfl (step_of_begins hexpected (by simp))
  | number h =>
    intro frames expected rest hexpected hrest
    obtain ⟨c, cs, hcs, hspace, hread⟩ := exists_read?_renderInt h hrest
    rw [renderChars, Number.render, hcs]
    exact feed_cons hspace hread (step_of_begins hexpected (by simp))
  | string s =>
    intro frames expected rest hexpected _
    exact feed_string (step_of_begins hexpected (by simp))
  | @array items _ ih =>
    intro frames expected rest hexpected _
    rw [renderChars, List.append_assoc, List.cons_append,
      feed_cons (by decide) rfl (step_of_begins hexpected (by simp))]
    -- An empty array closes where its first item might begin.
    cases items with
    | nil => exact feed_cons (by decide) rfl rfl
    | cons item items => exact feed_items (by simp) ih frames rest [] (.inr rfl)
  | @object members _ ih =>
    intro frames expected rest hexpected _
    rw [renderChars, List.append_assoc, List.cons_append,
      feed_cons (by decide) rfl (step_of_begins hexpected (by simp))]
    cases members with
    | nil => exact feed_cons (by decide) rfl rfl
    | cons member members => exact feed_members (by simp) ih frames rest [] fun _ => rfl

end Builder

theorem parse?_eq_feed (text : String) :
    parse? text = match Builder.start.feed text.toList with
      | some ⟨_, .nothing document⟩ => some document
      | _ => none := by
  rw [parse?, Builder.feed]
  cases all? text.toList <;> rfl

/-- **The text of a value.** It is read as the document of the value, unless a floating-point number
stands in it. -/
theorem parse?_render {j : Json} (h : Exact j) : parse? j.render = some (ofJson j) := by
  have hread := Builder.reads h [] .value [] (.inl rfl) nofun
  rw [List.append_nil] at hread
  rw [parse?_eq_feed, render, String.toList_ofList, Builder.start, hread, Builder.feed_nil]
  rfl

end Document

end Courier.Json
