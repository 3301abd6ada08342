import Courier.Settings

/-! The settings in force are always valid.

Settings are loaded, changed and reset, and each of these deals with invalid ones in its own way:
loading refuses them, or takes the defaults if it cannot even read them, and a change falls back to
the defaults. `inForce_valid` follows any run of them from the defaults on, and says what each one
leaves in force. -/

namespace Courier.Settings

/-! ### Valid settings -/

/-- What settings owe to those who go by them. -/
structure Valid (s : Settings) : Prop where
  stringLength : 0 < s.randomStringLength
  localPartLength : 0 < s.randomLocalPartLength
  domain : ∃ c ∈ s.defaultEmailDomain.toList, Text.isBlank c = false
  responseLimit : 0 < s.latestResponseLimit

theorem violation?_eq_none_iff {s : Settings} : s.violation? = none ↔ s.Valid := by
  have hdomain : ¬Text.trim s.defaultEmailDomain.toList = [] ↔
      ∃ c ∈ s.defaultEmailDomain.toList, Text.isBlank c = false := by
    simp [Text.trim_eq_nil_iff]
  rw [violation?]
  constructor
  · intro h
    split at h
    · cases h
    next hstring =>
    split at h
    · cases h
    next hlocal =>
    split at h
    · cases h
    next hvisible =>
    split at h
    · cases h
    next hlimit =>
    exact ⟨Nat.pos_of_ne_zero hstring, Nat.pos_of_ne_zero hlocal, hdomain.1 hvisible,
      Nat.pos_of_ne_zero hlimit⟩
  · rintro ⟨hstring, hlocal, hvisible, hlimit⟩
    rw [if_neg (Nat.ne_of_gt hstring), if_neg (Nat.ne_of_gt hlocal), if_neg (hdomain.2 hvisible),
      if_neg (Nat.ne_of_gt hlimit)]

theorem violation?_default : default.violation? = none := by
  decide

/-! ### One change -/

/-- What is done to the settings in force. -/
inductive Change where
  /-- A settings file is loaded, or none. -/
  | load (file : Option Json)
  | update (change : Settings → Settings)
  | reset

/-- What loading comes to. -/
def loaded (file : Option Json) : Except Violation Settings :=
  load (file.bind ofFile?)

/-- The settings in force after a change of them. -/
def Change.apply (inForce : Settings) : Change → Settings
  | .load file => afterLoad inForce (file.bind ofFile?)
  | .update change => inForce.update change
  | .reset => default

theorem load_none : load none = .ok default := by
  simp only [load, Option.map_none, Option.getD_none, violation?_default]

theorem load_some (s : Settings) :
    load (some s) = match s.violation? with
      | some violation => .error violation
      | none => .ok s := rfl

theorem violation?_of_load {given : Option Settings} {s : Settings} (h : load given = .ok s) :
    s.violation? = none := by
  rw [load] at h
  split at h
  · cases h
  next hnone =>
    cases h
    exact hnone

theorem afterLoad_of_ok {given : Option Settings} {s : Settings} (h : load given = .ok s)
    (inForce : Settings) : afterLoad inForce given = s := by
  rw [afterLoad, h]

theorem afterLoad_of_error {given : Option Settings} {violation : Violation}
    (h : load given = .error violation) (inForce : Settings) :
    afterLoad inForce given = inForce := by
  rw [afterLoad, h]

theorem update_of_none {s : Settings} {change : Settings → Settings}
    (h : (change s).violation? = none) : s.update change = change s := by
  simp [update, h]

theorem update_of_some {s : Settings} {change : Settings → Settings} {violation : Violation}
    (h : (change s).violation? = some violation) : s.update change = default := by
  simp [update, h]

theorem violation?_apply {inForce : Settings} (h : inForce.violation? = none) (change : Change) :
    (change.apply inForce).violation? = none := by
  cases change with
  | load file =>
    cases hload : load (file.bind ofFile?) with
    | ok s => rw [Change.apply, afterLoad_of_ok hload, violation?_of_load hload]
    | error violation => rw [Change.apply, afterLoad_of_error hload, h]
  | update change =>
    cases hchange : (change inForce).violation? with
    | none => rw [Change.apply, update_of_none hchange, hchange]
    | some violation => rw [Change.apply, update_of_some hchange, violation?_default]
  | reset => exact violation?_default

/-! ### Any run of changes -/

/-- The settings in force after changes, from the defaults on. -/
def inForce (changes : List Change) : Settings :=
  changes.foldl Change.apply default

theorem inForce_concat (changes : List Change) (change : Change) :
    inForce (changes ++ [change]) = change.apply (inForce changes) := by
  rw [inForce, List.foldl_append]
  rfl

theorem violation?_inForce (changes : List Change) : (inForce changes).violation? = none := by
  suffices ∀ s : Settings, s.violation? = none →
      (changes.foldl Change.apply s).violation? = none from this default violation?_default
  induction changes with
  | nil => exact fun s h => h
  | cons change changes ih => exact fun s h => ih _ (violation?_apply h change)

/-- **The settings in force.** After any changes they are valid. Loading takes effect if it goes
well and leaves everything as it is if not; it goes well with what it reads if that is valid, and
with the defaults if it can read nothing. An update takes effect if what it makes is valid, and
resets the settings if not. -/
theorem inForce_valid (changes : List Change) :
    let now := inForce changes
    (now.violation? = none ∧ now.Valid) ∧
      (∀ file s, loaded file = .ok s → inForce (changes ++ [.load file]) = s) ∧
      (∀ file violation, loaded file = .error violation →
        inForce (changes ++ [.load file]) = now) ∧
      (∀ file, file.bind ofFile? = none → loaded file = .ok default) ∧
      (∀ file s, file.bind ofFile? = some s → (s.violation? = none → loaded file = .ok s) ∧
        ∀ violation, s.violation? = some violation → loaded file = .error violation) ∧
      (∀ change, (change now).violation? = none →
        inForce (changes ++ [.update change]) = change now) ∧
      (∀ change, (change now).violation? ≠ none →
        inForce (changes ++ [.update change]) = default) ∧
      inForce (changes ++ [.reset]) = default := by
  intro now
  have hnow : now.violation? = none := violation?_inForce changes
  simp only [inForce_concat]
  refine ⟨⟨hnow, violation?_eq_none_iff.1 hnow⟩, fun file s h => afterLoad_of_ok h now,
    fun file violation h => afterLoad_of_error h now, fun file h => ?_, fun file s h => ?_,
    fun change h => update_of_none h, fun change h => ?_, rfl⟩
  · rw [loaded, h, load_none]
  · rw [loaded, h, load_some]
    exact ⟨fun hnone => by rw [hnone], fun violation hsome => by rw [hsome]⟩
  · obtain ⟨violation, hviolation⟩ := Option.ne_none_iff_exists'.1 h
    exact update_of_some hviolation

end Courier.Settings
