import Courier.Template.Scan

/-! What counts as one group in parentheses.

A group opens with the first opening parenthesis and closes with the first closing one behind
that. A text has one group if it has no second one behind that: whatever opens there, nothing
closes it. `isSome_parseInner?_iff`: such text, and no other, stands in the braces of a call. -/

namespace Courier.Template

/-- The text has one group in parentheses, with these texts before, inside and after it. -/
structure OneGroup (cs before inside after : List Char) : Prop where
  text : cs = before ++ '(' :: (inside ++ ')' :: after)
  first : '(' ∉ before
  shortest : ')' ∉ inside
  only : ∀ front back, after = front ++ '(' :: back → ')' ∉ back

/-- The text has one group in parentheses. -/
def HasOneGroup (cs : List Char) : Prop :=
  ∃ before inside after, OneGroup cs before inside after

section
variable {cs before inside after : List Char}

theorem group?_eq_some_iff :
    group? cs = some (before, inside, after) ↔
      cs = before ++ '(' :: (inside ++ ')' :: after) ∧ '(' ∉ before ∧ ')' ∉ inside := by
  constructor
  · intro h
    obtain ⟨⟨front, rest⟩, hopen, h⟩ := Option.bind_eq_some_iff.1 h
    obtain ⟨⟨middle, back⟩, hclose, h⟩ := Option.bind_eq_some_iff.1 h
    cases h
    obtain ⟨rfl, hfirst⟩ := Text.cut?_eq_some_iff.1 hopen
    obtain ⟨rfl, hshortest⟩ := Text.cut?_eq_some_iff.1 hclose
    exact ⟨rfl, hfirst, hshortest⟩
  · rintro ⟨rfl, hfirst, hshortest⟩
    simp only [group?, Text.cut?_append_cons hfirst, Text.cut?_append_cons hshortest,
      Option.bind_eq_bind, Option.bind_some, Option.pure_def]

/-- A text has no group if nothing closes what opens in it. -/
theorem group?_eq_none_iff :
    group? cs = none ↔ ∀ front back, cs = front ++ '(' :: back → ')' ∉ back := by
  constructor
  · rintro h front back rfl hclose
    obtain ⟨before, rest, hopen, hsuffix⟩ := Text.exists_cut? '(' front back
    obtain ⟨inside, after, rfl, hshortest⟩ := List.eq_append_cons_of_mem (hsuffix.mem hclose)
    obtain ⟨htext, hfirst⟩ := Text.cut?_eq_some_iff.1 hopen
    rw [group?_eq_some_iff.2 ⟨htext, hfirst, hshortest⟩] at h
    cases h
  · intro h
    cases hgroup : group? cs with
    | none => rfl
    | some found =>
      obtain ⟨before, inside, after⟩ := found
      obtain ⟨htext, -, -⟩ := group?_eq_some_iff.1 hgroup
      exact absurd (List.mem_append_right _ (List.mem_cons_self ..)) (h before _ htext)

theorem oneGroup_iff :
    OneGroup cs before inside after ↔
      group? cs = some (before, inside, after) ∧ group? after = none := by
  rw [group?_eq_some_iff, group?_eq_none_iff]
  exact ⟨fun h => ⟨⟨h.text, h.first, h.shortest⟩, h.only⟩,
    fun ⟨⟨text, first, shortest⟩, only⟩ => ⟨text, first, shortest, only⟩⟩

/-- A call is read from text with one group: the chain from what stands around the group, and
the argument from what stands in it. -/
theorem parseInner?_of_oneGroup (h : OneGroup cs before inside after) :
    parseInner? cs =
      some ((Text.splitOn '.' (before ++ after)).map (String.ofList ∘ Text.trim),
        Argument.ofChars inside) := by
  obtain ⟨hgroup, hnone⟩ := oneGroup_iff.1 h
  simp [parseInner?, hgroup, hnone]

theorem isSome_parseInner?_iff : (parseInner? cs).isSome = true ↔ HasOneGroup cs := by
  constructor
  · intro h
    obtain ⟨found, hfound⟩ := Option.isSome_iff_exists.1 h
    obtain ⟨⟨before, inside, after⟩, hgroup, hrest⟩ := Option.bind_eq_some_iff.1 hfound
    cases hnone : group? after with
    | none => exact ⟨before, inside, after, oneGroup_iff.2 ⟨hgroup, hnone⟩⟩
    | some second => simp [hnone] at hrest
  · rintro ⟨before, inside, after, h⟩
    rw [parseInner?_of_oneGroup h, Option.isSome_some]

end

instance (cs : List Char) : Decidable (HasOneGroup cs) :=
  decidable_of_iff _ isSome_parseInner?_iff

end Courier.Template
