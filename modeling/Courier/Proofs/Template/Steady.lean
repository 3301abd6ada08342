import Courier.Proofs.Template.Parts

/-! Runs that draw no random words.

Only one function draws words. A chain without it, and a text whose calls have such chains only,
comes to the same whatever source of random words it is given, and gives the source back as it was
(`steady_substitute`). -/

namespace Courier.Template

/-- The run comes to the same from every state, and leaves the state as it is. -/
def Steady {σ ρ : Type} (run : σ → ρ × σ) : Prop :=
  ∃ result, ∀ s, run s = (result, s)

/-! ### Chains -/

theorem Function.eq_of_ofName?_random {name : String}
    (h : Function.ofName? name = some .random) : name = "random" := by
  unfold Function.ofName? at h
  split at h <;> cases h
  rfl

section
variable {c : Context} {collection : String}

theorem Function.steady_apply {f : Function} (h : f ≠ .random) (v : Value) :
    Steady (f.apply c collection v) := by
  cases f with
  | random => exact absurd rfl h
  | _ => exact ⟨_, fun s => rfl⟩

theorem steady_applyName {name : String} (h : name ≠ "random") (v : Value) :
    Steady (applyName c collection name v) := by
  unfold applyName
  cases hf : Function.ofName? name with
  | none => exact ⟨_, fun s => rfl⟩
  | some f =>
    have hne : f ≠ .random := by
      rintro rfl
      exact h (Function.eq_of_ofName?_random hf)
    exact Function.steady_apply hne v

theorem steady_evaluateChain {names : List String} (h : "random" ∉ names) (v : Value) :
    Steady (evaluateChain c collection names v) := by
  induction names with
  | nil => exact ⟨_, fun s => rfl⟩
  | cons name names ih =>
    simp only [List.mem_cons, not_or] at h
    obtain ⟨result, hresult⟩ := ih h.2
    cases result with
    | error e => exact ⟨.error e, fun s => by simp only [evaluateChain, hresult]⟩
    | ok w =>
      obtain ⟨last, hlast⟩ : Steady (applyName c collection name w) :=
        steady_applyName (Ne.symm h.1) w
      exact ⟨last, fun s => by simp only [evaluateChain, hresult, hlast]⟩

theorem Call.steady_evaluate {call : Call} (h : "random" ∉ call.chain) :
    Steady (call.evaluate c) :=
  steady_evaluateChain h _

end

/-! ### Texts -/

section
variable {σ : Type} {evaluate : Evaluator σ} {ps : List Part}

theorem Steady.fill_text (h : Steady (fill evaluate ps)) {p : Part} (hp : p.call? = none) :
    Steady (fill evaluate (p :: ps)) := by
  obtain ⟨result, hresult⟩ := h
  refine ⟨match result with
    | .ok rest => .ok (p.source ++ rest)
    | .error (e, rest) => .error (e, p.source ++ rest), fun s => ?_⟩
  cases p with
  | call call => cases hp
  | literal text => rcases result with ⟨e, rest⟩ | rest <;> simp only [fill, hresult]
  | malformed inner => rcases result with ⟨e, rest⟩ | rest <;> simp only [fill, hresult]

theorem Steady.fill_call (h : Steady (fill evaluate ps)) {call : Call}
    (hcall : Steady (evaluate call)) : Steady (fill evaluate (.call call :: ps)) := by
  obtain ⟨result, hresult⟩ := h
  obtain ⟨value, hvalue⟩ := hcall
  refine ⟨match value, result with
    | .error e, _ => .error (e, sources (.call call :: ps))
    | .ok v, .ok rest => .ok (v.toText.toList ++ rest)
    | .ok v, .error (e, rest) => .error (e, v.toText.toList ++ rest), fun s => ?_⟩
  rcases value with e | v
  · simp only [fill, hvalue]
  · rcases result with ⟨e, rest⟩ | rest <;> simp only [fill, hvalue, hresult]

theorem steady_fill (h : ∀ call ∈ ps.filterMap Part.call?, Steady (evaluate call)) :
    Steady (fill evaluate ps) := by
  induction ps with
  | nil => exact ⟨_, fun s => rfl⟩
  | cons p ps ih =>
    cases hp : p.call? with
    | none =>
      rw [List.filterMap_cons_none hp] at h
      exact (ih h).fill_text hp
    | some call =>
      obtain rfl := Part.eq_of_call? hp
      rw [List.filterMap_cons_some hp] at h
      obtain ⟨hcall, hcalls⟩ := List.forall_mem_cons.1 h
      exact (ih hcalls).fill_call hcall

end

theorem steady_substitute {c : Context} {collection text : String}
    (h : ∀ call ∈ (scan c.settings.scanMode collection text).calls, "random" ∉ call.chain) :
    Steady (substitute c collection text) := by
  have hfill : Steady (fill (Call.evaluate c) (parts c.settings.scanMode collection text)) :=
    steady_fill fun call hcall => Call.steady_evaluate (h call hcall)
  obtain ⟨result, hresult⟩ := hfill
  refine ⟨match result with
    | .ok filled => .ok (String.ofList filled)
    | .error (e, rest) => .error ⟨e, if c.settings.rollbackOnError then none
        else some (String.ofList rest)⟩, fun s => ?_⟩
  rcases result with ⟨e, rest⟩ | filled <;> simp only [substitute, substituteWith, hresult]

end Courier.Template
