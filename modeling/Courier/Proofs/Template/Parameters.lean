import Courier.Proofs.Template.Fields
import Courier.Proofs.Template.Splice

/-! What becomes of parameters whose substitution ends early.

Parameters are worked on in their places, one after the other. If all goes well each of them has the
text that its value comes to. If not, those before the first that fails have it, and that one and
those behind it stand as they did (`substituteParameters_cases`). What is evaluated is written down
by the same loop run with an evaluator that keeps a log (`substituteParametersWith`), and the setting
that says whether a failure comes with its partial text is shown to say no more than that
(`substituteParameters_rollingBack`). `substituteParameters_stops` puts these together. -/

namespace Courier.Template

/-- Parameters with the values of all calls in their values, each found as `evaluate` does. -/
def substituteParametersWith {σ : Type} (evaluate : Evaluator σ) (settings : Settings)
    (collection : String) : List Http.Parameter → σ → (List Http.Parameter × Option Failure) × σ
  | [], s => (([], none), s)
  | p :: rest, s =>
    match substituteWith evaluate settings collection p.value s with
    | (.error failure, s) => ((p :: rest, some failure), s)
    | (.ok value, s) =>
      let ((rest, failure), s) := substituteParametersWith evaluate settings collection rest s
      (({ p with value } :: rest, failure), s)

theorem substituteParametersWith_evaluate (c : Context) (collection : String)
    (params : List Http.Parameter) (s : Random.Source) :
    substituteParametersWith (Call.evaluate c) c.settings collection params s =
      substituteParameters c collection params s := by
  induction params generalizing s with
  | nil => rfl
  | cons p params ih =>
    rw [substituteParametersWith, substituteParameters, substitute]
    rcases substituteWith (Call.evaluate c) c.settings collection p.value s with ⟨failure | value, s₁⟩
    · rfl
    · simp only [ih]

/-! ### The loop -/

section
variable {σ : Type} {evaluate : Evaluator σ} {settings : Settings} {collection : String}

theorem substituteParametersWith_of_inTurn {params done : List Http.Parameter} {s s' : σ}
    (hframe : done.map frameOf = params.map frameOf)
    (h : InTurn (fun p : Http.Parameter => substituteWith evaluate settings collection p.value)
      params s (done.map (·.value)) s') :
    substituteParametersWith evaluate settings collection params s = ((done, none), s') := by
  induction params generalizing done s with
  | nil =>
    obtain rfl : done = [] := List.map_eq_nil_iff.1 hframe
    cases h
    rfl
  | cons p params ih =>
    obtain ⟨⟨key, value, enabled⟩, rest, rfl, hfirst, hrest⟩ := List.map_eq_cons_iff.1 hframe
    cases h with
    | cons hrun h =>
      cases hfirst
      simp only [substituteParametersWith, hrun, ih hrest h]

theorem substituteParametersWith_of_failure {before after done : List Http.Parameter}
    {p : Http.Parameter} {failure : Failure} {s s₁ s' : σ}
    (hframe : done.map frameOf = before.map frameOf)
    (h : InTurn (fun p : Http.Parameter => substituteWith evaluate settings collection p.value)
      before s (done.map (·.value)) s₁)
    (hp : substituteWith evaluate settings collection p.value s₁ = (.error failure, s')) :
    substituteParametersWith evaluate settings collection (before ++ p :: after) s =
      ((done ++ p :: after, some failure), s') := by
  induction before generalizing done s with
  | nil =>
    obtain rfl : done = [] := List.map_eq_nil_iff.1 hframe
    cases h
    simp only [List.nil_append, substituteParametersWith, hp]
  | cons first before ih =>
    obtain ⟨⟨key, value, enabled⟩, rest, rfl, hfirst, hrest⟩ := List.map_eq_cons_iff.1 hframe
    cases h with
    | cons hrun h =>
      cases hfirst
      simp only [List.cons_append, substituteParametersWith, hrun, ih hrest h]

/-! ### What is evaluated -/

/-- All calls of a text that comes to something have been evaluated. -/
theorem substituteWith_logged_of_ok {text result : String} {s s' : σ}
    (h : substituteWith evaluate settings collection text s = (.ok result, s'))
    (log : List Call) :
    substituteWith (logged evaluate) settings collection text (s, log) =
      (.ok result, (s', log ++ (scan settings.scanMode collection text).calls)) := by
  obtain ⟨vs, s₁, hrun⟩ | ⟨before, call, after, vs, s₁, e, s₂, hcalls, hrun, he⟩ :=
    evaluates_or_fails evaluate (scan settings.scanMode collection text).calls s
  · rw [substituteWith_of_evaluates hrun] at h
    cases h
    exact substituteWith_of_evaluates (hrun.logged log)
  · rw [substituteWith_of_failure hcalls hrun he] at h
    cases h

/-- Of a text that fails only calls from its start on have been evaluated. -/
theorem substituteWith_logged_of_error {text : String} {failure : Failure} {s s' : σ}
    (h : substituteWith evaluate settings collection text s = (.error failure, s'))
    (log : List Call) :
    ∃ tried, tried <+: (scan settings.scanMode collection text).calls ∧
      substituteWith (logged evaluate) settings collection text (s, log) =
        (.error failure, (s', log ++ tried)) := by
  obtain ⟨vs, s₁, hrun⟩ | ⟨before, call, after, vs, s₁, e, s₂, hcalls, hrun, he⟩ :=
    evaluates_or_fails evaluate (scan settings.scanMode collection text).calls s
  · rw [substituteWith_of_evaluates hrun] at h
    cases h
  · have hlogged : logged evaluate call (s₁, log ++ before) =
        (.error e, (s₂, log ++ (before ++ [call]))) := by
      simp only [logged, he, List.append_assoc]
    rw [substituteWith_of_failure hcalls hrun he] at h
    cases h
    refine ⟨before ++ [call], ⟨after, by simp [hcalls]⟩, ?_⟩
    exact substituteWith_of_failure hcalls (hrun.logged log) hlogged

theorem InTurn.logged {params : List Http.Parameter} {values : List String} {s s' : σ}
    (h : InTurn (fun p : Http.Parameter => substituteWith evaluate settings collection p.value)
      params s values s') (log : List Call) :
    InTurn (fun p : Http.Parameter =>
        substituteWith (Template.logged evaluate) settings collection p.value)
      params (s, log) values
      (s', log ++ params.flatMap fun p => (scan settings.scanMode collection p.value).calls) := by
  induction h generalizing log with
  | nil =>
    rw [List.flatMap_nil, List.append_nil]
    exact .nil
  | cons hrun _ ih =>
    rw [List.flatMap_cons, ← List.append_assoc]
    exact .cons (substituteWith_logged_of_ok hrun log) (ih _)

end

/-! ### The setting for partial texts -/

/-- The context with this in the setting that says whether a failure comes without a text. -/
def Context.rollingBack (c : Context) (rollback : Bool) : Context :=
  { c with settings := { c.settings with rollbackOnError := rollback } }

section
variable (c : Context) (collection : String) (rollback : Bool)

/-- No function reads the setting. -/
theorem evaluateChain_rollingBack (names : List String) (v : Value) (s : Random.Source) :
    evaluateChain (c.rollingBack rollback) collection names v s =
      evaluateChain c collection names v s := by
  have happly (f : Function) (v : Value) (s : Random.Source) :
      f.apply (c.rollingBack rollback) collection v s = f.apply c collection v s := by
    cases f <;> rfl
  induction names with
  | nil => rfl
  | cons name names ih => simp only [evaluateChain, ih, applyName, happly]

theorem call_evaluate_rollingBack : Call.evaluate (c.rollingBack rollback) = Call.evaluate c :=
  funext fun call => funext fun s => evaluateChain_rollingBack c call.collection rollback _ _ s

/-- A text comes to the same, or it fails for the same reason. -/
theorem exists_substitute_rollingBack (text : String) (s : Random.Source) :
    ∃ soFar, substitute (c.rollingBack rollback) collection text s =
      ((substitute c collection text s).1.mapError fun failure => ⟨failure.error, soFar⟩,
        (substitute c collection text s).2) := by
  have hmode : (c.rollingBack rollback).settings.scanMode = c.settings.scanMode := rfl
  simp only [substitute, substituteWith, call_evaluate_rollingBack, hmode]
  split
  · exact ⟨none, rfl⟩
  · exact ⟨_, rfl⟩

theorem substituteParameters_rollingBack (params : List Http.Parameter) (s : Random.Source) :
    let changed := substituteParameters (c.rollingBack rollback) collection params s
    let unchanged := substituteParameters c collection params s
    changed.1.1 = unchanged.1.1 ∧
      changed.1.2.map Failure.error = unchanged.1.2.map Failure.error ∧
      changed.2 = unchanged.2 := by
  induction params generalizing s with
  | nil => exact ⟨rfl, rfl, rfl⟩
  | cons p params ih =>
    obtain ⟨soFar, hchanged⟩ :=
      exists_substitute_rollingBack c collection rollback p.value s
    rcases hp : substitute c collection p.value s with ⟨failure | value, s₁⟩
    · rw [hp] at hchanged
      simp [substituteParameters, hp, hchanged, Except.mapError]
    · rw [hp] at hchanged
      obtain ⟨hparams, hfailure, hsource⟩ := ih s₁
      simp only [substituteParameters, hp, hchanged, Except.mapError]
      exact ⟨congrArg _ hparams, hfailure, hsource⟩

end

/-- **What becomes of parameters.** They keep their number, their order, their names and whether they
are enabled. Either each of them has the text that its value comes to, one after the other on one
source of random words; or one of them is the first whose value fails: those before it have their
texts, it and those behind it stand as they did, and its failure is the failure, with its partial
text. The calls that are evaluated are then those in the values before it, and some from the start
of its own value. What is left of the parameters does not depend on whether failures come with
partial texts, nor does the reason for the failure. -/
theorem substituteParameters_stops (c : Context) (collection : String)
    (params : List Http.Parameter) (s : Random.Source) :
    let run := fun p : Http.Parameter => substitute c collection p.value
    let calls := fun p : Http.Parameter => (scan c.settings.scanMode collection p.value).calls
    let left := substituteParameters c collection params s
    let traced :=
      substituteParametersWith (logged (Call.evaluate c)) c.settings collection params (s, [])
    substituteParametersWith (Call.evaluate c) c.settings collection params s = left ∧
      left.1.1.map frameOf = params.map frameOf ∧
      ((∃ done s', InTurn run params s (done.map (·.value)) s' ∧ left = ((done, none), s') ∧
          traced = ((done, none), (s', params.flatMap calls))) ∨
        ∃ before p after done s₁ failure s' tried, params = before ++ p :: after ∧
          done.length = before.length ∧ InTurn run before s (done.map (·.value)) s₁ ∧
          run p s₁ = (.error failure, s') ∧ left = ((done ++ p :: after, some failure), s') ∧
          tried <+: calls p ∧
          traced = ((done ++ p :: after, some failure), (s', before.flatMap calls ++ tried))) ∧
      ∀ rollback : Bool,
        let other := substituteParameters (c.rollingBack rollback) collection params s
        other.1.1 = left.1.1 ∧ other.1.2.map Failure.error = left.1.2.map Failure.error ∧
          other.2 = left.2 := by
  intro run calls left traced
  refine ⟨substituteParametersWith_evaluate .., ?_, ?_,
    fun rollback => substituteParameters_rollingBack c collection rollback params s⟩
  · obtain ⟨done, s', hframe, -, hleft⟩ |
      ⟨before, p, after, done, s₁, failure, s', rfl, hframe, -, -, hleft⟩ :=
      substituteParameters_cases c collection params s
    · simp only [left, hleft, hframe]
    · simp only [left, hleft, List.map_append, hframe]
  · obtain ⟨done, s', hframe, h, hleft⟩ |
      ⟨before, p, after, done, s₁, failure, s', rfl, hframe, h, hp, hleft⟩ :=
      substituteParameters_cases c collection params s
    · exact .inl ⟨done, s', h, hleft, substituteParametersWith_of_inTurn hframe (h.logged [])⟩
    · obtain ⟨tried, htried, hlogged⟩ := substituteWith_logged_of_error hp (before.flatMap calls)
      have hlength : done.length = before.length := by simpa using congrArg List.length hframe
      refine .inr ⟨before, p, after, done, s₁, failure, s', tried, rfl, hlength, h, hp, hleft,
        htried, ?_⟩
      exact substituteParametersWith_of_failure hframe (h.logged []) hlogged

end Courier.Template
