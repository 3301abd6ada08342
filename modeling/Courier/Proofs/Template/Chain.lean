import Courier.Template.Evaluate

/-! Walking a chain.

A chain is walked from its last name to its first. So a chain of two parts is the second one and
then, if that has a value, the first one (`evaluateChain_append`). What a name is given does not
show in the end, so `walk` does the same with any way to apply names, among them one that writes down
each name with the value it takes (`noted`): the names that are applied are those of the chain from
its end, up to the first one that fails (`walk_noted_of_error`). -/

namespace Courier.Template

section
variable {c : Context} {collection : String}

/-- The part of a chain nearer its end comes first, and the other one takes its value. -/
theorem evaluateChain_append (front back : List String) (v : Value) (s : Random.Source) :
    evaluateChain c collection (front ++ back) v s =
      match evaluateChain c collection back v s with
      | (.ok w, s) => evaluateChain c collection front w s
      | (.error e, s) => (.error e, s) := by
  induction front with
  | nil =>
    rw [List.nil_append]
    rcases evaluateChain c collection back v s with ⟨e | w, s⟩ <;> rfl
  | cons name front ih =>
    rw [List.cons_append, evaluateChain, ih]
    rcases evaluateChain c collection back v s with ⟨e | w, s⟩ <;> rfl

theorem evaluateChain_append_of_ok {back : List String} {v w : Value} {s s' : Random.Source}
    (h : evaluateChain c collection back v s = (.ok w, s')) (front : List String) :
    evaluateChain c collection (front ++ back) v s = evaluateChain c collection front w s' := by
  rw [evaluateChain_append, h]

theorem evaluateChain_append_of_error {back : List String} {v : Value} {s s' : Random.Source}
    {e : Error} (h : evaluateChain c collection back v s = (.error e, s')) (front : List String) :
    evaluateChain c collection (front ++ back) v s = (.error e, s') := by
  rw [evaluateChain_append, h]

/-- Names that no function has pass their value on. -/
theorem evaluateChain_unknown {names : List String}
    (h : ∀ name ∈ names, Function.ofName? name = none) (v : Value) (s : Random.Source) :
    evaluateChain c collection names v s = (.ok v, s) := by
  induction names with
  | nil => rfl
  | cons name names ih =>
    obtain ⟨hname, hnames⟩ := List.forall_mem_cons.1 h
    simp only [evaluateChain, ih hnames, applyName, hname]

/-- A function on the value that the chain behind it has. -/
theorem evaluateChain_cons {name : String} {f : Function} (hname : Function.ofName? name = some f)
    {back : List String} {v w : Value} {s s' : Random.Source}
    (h : evaluateChain c collection back v s = (.ok w, s')) :
    evaluateChain c collection (name :: back) v s = f.apply c collection w s' := by
  simp only [evaluateChain, h, applyName, hname]

/-- A failure is that of the first function, from the end of the chain, that fails. -/
theorem exists_of_evaluateChain_error {chain : List String} {v : Value} {s s' : Random.Source}
    {e : Error} (h : evaluateChain c collection chain v s = (.error e, s')) :
    ∃ front name f back w s₁, chain = front ++ name :: back ∧
      evaluateChain c collection back v s = (.ok w, s₁) ∧ Function.ofName? name = some f ∧
      f.apply c collection w s₁ = (.error e, s') := by
  induction chain with
  | nil => cases h
  | cons name names ih =>
    rcases hback : evaluateChain c collection names v s with ⟨e' | w, s₁⟩
    · simp only [evaluateChain, hback] at h
      cases h
      obtain ⟨front, other, f, back, w, s₁, rfl, hreached⟩ := ih hback
      exact ⟨name :: front, other, f, back, w, s₁, rfl, hreached⟩
    · cases hname : Function.ofName? name with
      | none =>
        simp only [evaluateChain, hback, applyName, hname] at h
        cases h
      | some f => exact ⟨[], name, f, names, w, s₁, rfl, hback, hname,
          (evaluateChain_cons hname hback).symm.trans h⟩

end

/-! ### What is applied -/

section
variable {σ : Type}

/-- A way to apply the function of a name to a value. It may keep a state. -/
abbrev Applier (σ : Type) := String → Value → σ → Except Error Value × σ

/-- A chain on a value, its names applied as `apply` does. -/
def walk (apply : Applier σ) : List String → Value → σ → Except Error Value × σ
  | [], v, s => (.ok v, s)
  | name :: names, v, s =>
    match walk apply names v s with
    | (.ok v, s) => apply name v s
    | (.error e, s) => (.error e, s)

theorem walk_applyName (c : Context) (collection : String) (names : List String) (v : Value)
    (s : Random.Source) :
    walk (applyName c collection) names v s = evaluateChain c collection names v s := by
  induction names with
  | nil => rfl
  | cons name names ih =>
    rw [walk, ih, evaluateChain]
    rcases evaluateChain c collection names v s with ⟨e | w, s⟩ <;> rfl

/-- Applies names and writes down each of them, with the value it is applied to. -/
def noted (apply : Applier σ) : Applier (σ × List (String × Value)) := fun name v (s, log) =>
  let (r, s) := apply name v s
  (r, (s, log ++ [(name, v)]))

variable {apply : Applier σ} {v w : Value} {s s' : σ}

/-- A chain with a value has had all its names applied, the last one first. -/
theorem walk_noted_of_ok {names : List String} (h : walk apply names v s = (.ok w, s'))
    (log : List (String × Value)) :
    ∃ applied, applied.map Prod.fst = names.reverse ∧
      walk (noted apply) names v (s, log) = (.ok w, (s', log ++ applied)) := by
  induction names generalizing w s' with
  | nil =>
    cases h
    exact ⟨[], rfl, by rw [List.append_nil]; rfl⟩
  | cons name names ih =>
    rcases hnames : walk apply names v s with ⟨e | w', s₁⟩
    · simp only [walk, hnames] at h
      cases h
    · simp only [walk, hnames] at h
      obtain ⟨applied, happlied, hwalk⟩ := ih hnames
      refine ⟨applied ++ [(name, w')], by simp [happlied], ?_⟩
      simp only [walk, hwalk, noted, h, List.append_assoc]

/-- A failure leaves the names in front of it alone. -/
theorem walk_noted_of_error {front back : List String} {name : String} {e : Error} {s₁ : σ}
    (hback : walk apply back v s = (.ok w, s₁)) (h : apply name w s₁ = (.error e, s')) :
    ∃ applied, applied.map Prod.fst = back.reverse ∧
      walk (noted apply) (front ++ name :: back) v (s, []) =
        (.error e, (s', applied ++ [(name, w)])) := by
  obtain ⟨applied, happlied, hwalk⟩ := walk_noted_of_ok hback []
  refine ⟨applied, happlied, ?_⟩
  induction front with
  | nil => simp only [List.nil_append, walk, hwalk, noted, h]
  | cons other front ih => rw [List.cons_append, walk, ih]

end

end Courier.Template
