import Mathlib.Data.List.GetD
import Mathlib.Data.List.TakeWhile
import Courier.Proofs.Settings
import Courier.Proofs.Template.Written

/-! Made-up e-mail addresses.

A choice among items is one of them, whatever words the source gives (`Source.pick_mem`), so the part
before the `@` is the time and as many characters of the alphabet as it should have. The domain is
another matter: that it is not blank is seen to first, and only then any `@` in front of it is taken
off. So an address is complete exactly if something else stands in the domain
(`isComplete_email_iff`), for the options and the settings of every call (`apply_random_email`), and
valid settings do not see to that (`domain_may_be_missing`). -/

namespace Courier.Random

/-! ### Choices -/

namespace Source

theorem chooseFrom_lt (attempts : Nat) {n : Nat} (hn : 0 < n) (s : Source) :
    (chooseFrom attempts n s).1 < n := by
  induction attempts generalizing s with
  | zero => exact hn
  | succ attempts ih =>
    unfold chooseFrom
    dsimp only
    split
    · have hword : s.draw.1.toNat < UInt64.size := s.draw.1.toNat_lt_size
      exact Nat.div_lt_of_lt_mul (Nat.mul_lt_mul_of_pos_right hword hn)
    · exact ih s.draw.2

theorem pick_mem {α : Type} {items : List α} (h : items ≠ []) (default : α) (s : Source) :
    (s.pick items default).1 ∈ items := by
  have hplace : (s.choose items.length).1 < items.length :=
    chooseFrom_lt attempts (List.length_pos_iff.2 h) s
  have hitem : (s.pick items default).1 = items[(s.choose items.length).1] :=
    List.getD_eq_getElem items default hplace
  rw [hitem]
  exact List.getElem_mem hplace

end Source

theorem length_characters (n : Nat) (s : Source) : (characters n s).1.length = n := by
  induction n generalizing s with
  | zero => rfl
  | succ n ih => exact congrArg (· + 1) (ih _)

theorem mem_characters (n : Nat) (s : Source) : ∀ c ∈ (characters n s).1, c ∈ alphabet := by
  induction n generalizing s with
  | zero => nofun
  | succ n ih =>
    have hfirst : (s.pick alphabet 'a').1 ∈ alphabet := Source.pick_mem (by decide) 'a' s
    exact List.forall_mem_cons.2 ⟨hfirst, ih _⟩

/-! ### Domains -/

theorem head?_bareDomain (domain : String) : (bareDomain domain).toList.head? ≠ some '@' := by
  intro h
  have hnot := List.head?_dropWhile_not (· = '@') (Text.trim domain.toList)
  rw [bareDomain, String.toList_ofList] at h
  rw [h] at hnot
  exact absurd hnot (by decide)

theorem bareDomain_ne_empty_iff {domain : String} :
    bareDomain domain ≠ "" ↔ ∃ c ∈ Text.trim domain.toList, c ≠ '@' := by
  have hempty : bareDomain domain = "" ↔ ∀ c ∈ Text.trim domain.toList, c = '@' := by
    rw [bareDomain, ← String.toList_inj, String.toList_ofList, String.toList_empty,
      List.dropWhile_eq_nil_iff]
    simp only [decide_eq_true_iff]
  simp [hempty]

/-! ### Addresses -/

/-- The address has all of its parts: the time, so many characters of the alphabet, and behind the
`@` a domain, which does not begin with another one. -/
def IsComplete (seconds : Int) (length : Nat) (address : String) : Prop :=
  ∃ part domain : String, address = toString seconds ++ part ++ "@" ++ domain ∧
    part.length = length ∧ (∀ c ∈ part.toList, c ∈ alphabet) ∧
    domain ≠ "" ∧ domain.toList.head? ≠ some '@'

theorem at_notMem_toString (seconds : Int) : '@' ∉ (toString seconds).toList := by
  have hdigits (n : Nat) : '@' ∉ Nat.toDigits 10 n := fun h =>
    absurd (Nat.isDigit_of_mem_toDigits (by decide) (by decide) h) (by decide)
  cases seconds with
  | ofNat n =>
    have hchars : (toString (Int.ofNat n)).toList = Nat.toDigits 10 n := by
      show (toString n).toList = _
      simp
    rw [hchars]
    exact hdigits n
  | negSucc n =>
    have hchars : (toString (Int.negSucc n)).toList = '-' :: Nat.toDigits 10 (n + 1) := by
      show ("-" ++ toString (n + 1)).toList = _
      simp
    rw [hchars]
    exact List.not_mem_cons_of_ne_of_not_mem (by decide) (hdigits (n + 1))

/-- The domain stands behind the first `@`. -/
theorem cut?_address (seconds : Int) {part : String} (h : ∀ c ∈ part.toList, c ∈ alphabet)
    (domain : String) : Text.cut? '@' (toString seconds ++ part ++ "@" ++ domain).toList =
      some ((toString seconds ++ part).toList, domain.toList) := by
  have hpart : '@' ∉ part.toList := fun hat => absurd (h '@' hat) (by decide)
  have hchars : (toString seconds ++ part ++ "@" ++ domain).toList =
      (toString seconds ++ part).toList ++ '@' :: domain.toList := by
    simp only [String.toList_append, List.append_assoc]
    rfl
  rw [hchars]
  apply Text.cut?_append_cons
  rw [String.toList_append, List.mem_append, not_or]
  exact ⟨at_notMem_toString seconds, hpart⟩

theorem isComplete_email_iff {seconds : Int} {length : Nat} {domain : String} {s : Source} :
    IsComplete seconds length (email seconds length domain s).1 ↔
      ∃ c ∈ Text.trim domain.toList, c ≠ '@' := by
  have hemail : (email seconds length domain s).1 =
      toString seconds ++ (string length s).1 ++ "@" ++ bareDomain domain := rfl
  have hchars : (string length s).1.toList = (characters length s).1 := String.toList_ofList
  have hpart : ∀ c ∈ (string length s).1.toList, c ∈ alphabet := by
    rw [hchars]
    exact mem_characters length s
  have hlength : (string length s).1.length = length := by
    rw [← String.length_toList, hchars, length_characters]
  rw [hemail, ← bareDomain_ne_empty_iff]
  constructor
  · intro h
    obtain ⟨part, domain', haddress, -, hpart', hne, -⟩ := h
    have hcut := cut?_address seconds hpart (bareDomain domain)
    rw [haddress, cut?_address seconds hpart' domain', Option.some.injEq, Prod.mk.injEq,
      String.toList_inj, String.toList_inj] at hcut
    rwa [← hcut.2]
  · intro h
    exact ⟨_, _, rfl, hlength, hpart, h, head?_bareDomain domain⟩

/-! ### Calls for an address -/

/-- The kind of value that a list asks for. -/
def kindOf (arguments : List String) : String :=
  (arguments[0]?.map (Text.lower ∘ Text.strip)).getD ""

/-- The domain for an address: the option, or the one of the settings if the option is blank or
missing. -/
def domainFor (arguments : List String) (options : Options) : String :=
  ((arguments[1]?.map Text.strip).filter (· ≠ "")).getD options.domain

theorem generate_of_email {arguments : List String} (h : kindOf arguments = "email")
    (options : Options) (s : Source) :
    generate arguments options s =
      email options.seconds options.localPartLength (domainFor arguments options) s := by
  show (if kindOf arguments = "email" then _ else _) = _
  rw [if_pos h]
  rfl

end Courier.Random

namespace Courier.Template
open Courier.Random (kindOf domainFor IsComplete)

/-- **Calls for an e-mail address** always have one, and it is complete exactly if something else than
`@` stands between the blank ends of the domain. -/
theorem apply_random_email (c : Context) (collection : String) {v : Value}
    (h : kindOf v.toList = "email") (s : Random.Source) :
    ∃ address rest, Function.random.apply c collection v s = (.ok (.text address), rest) ∧
      (IsComplete c.seconds c.settings.randomLocalPartLength address ↔
        ∃ ch ∈ Text.trim (domainFor v.toList c.randomOptions).toList, ch ≠ '@') := by
  have happly : Function.random.apply c collection v s =
      (.ok (.text (Random.generate v.toList c.randomOptions s).1),
        (Random.generate v.toList c.randomOptions s).2) := rfl
  rw [happly, Random.generate_of_email h]
  exact ⟨_, _, rfl, Random.isComplete_email_iff⟩

/-- An option that is nothing but the `@` in front of a domain is not blank, so it counts. -/
theorem domain_may_be_missing :
    ¬∀ (c : Context) (collection : String) (v : Value) (s : Random.Source),
      c.settings.Valid → kindOf v.toList = "email" →
      ∃ address rest, Function.random.apply c collection v s = (.ok (.text address), rest) ∧
        IsComplete c.seconds c.settings.randomLocalPartLength address := by
  intro h
  have hvalid : bareContext.settings.Valid :=
    Settings.violation?_eq_none_iff.1 Settings.violation?_default
  have hkind : kindOf (Value.list ["email", "@"]).toList = "email" := by decide
  obtain ⟨address, rest, hmade, hcomplete⟩ := h bareContext "" _ (.ofWords []) hvalid hkind
  obtain ⟨made, left, happly, hiff⟩ := apply_random_email bareContext "" hkind (.ofWords [])
  have hsame : made = address := by
    rw [happly] at hmade
    cases hmade
    rfl
  rw [hsame, ← Random.bareDomain_ne_empty_iff] at hiff
  exact absurd (hiff.1 hcomplete) (by decide)

/-- Settings are as content with it. -/
example : ({ Settings.default with defaultEmailDomain := " @" } : Settings).violation? = none ∧
    Random.bareDomain " @" = "" := by
  decide

end Courier.Template
