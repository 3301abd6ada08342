import Courier.Proofs.Template.Chain
import Courier.Proofs.Template.Written

/-! Chains put together.

A chain of two parts is the composition of the two, with the source of random words handed from one
to the other; where the part nearer the end fails, nothing of the other one is applied. Names that no
function has may stand anywhere in a chain, and do nothing there (`evaluateChain_padded`).
`evaluateChain_composes` says all of this. -/

namespace Courier.Template

/-- The second chain is the first one with names in it that no function has. -/
inductive Padded : List String → List String → Prop
  | nil : Padded [] []
  | kept (name) {names padded} : Padded names padded → Padded (name :: names) (name :: padded)
  | unknown {name names padded} (h : Function.ofName? name = none) :
      Padded names padded → Padded names (name :: padded)

variable {c : Context} {collection : String}

theorem evaluateChain_padded {names padded : List String} (h : Padded names padded) (v : Value)
    (s : Random.Source) :
    evaluateChain c collection padded v s = evaluateChain c collection names v s := by
  induction h with
  | nil => rfl
  | kept name _ ih => rw [evaluateChain, evaluateChain, ih]
  | unknown hname _ ih =>
    rw [evaluateChain, ih]
    rcases evaluateChain c collection _ v s with ⟨e | w, s₁⟩
    · rfl
    · simp only [applyName, hname]

/-- A chain that fails has applied names from its end only, whatever stands in front of it. -/
theorem exists_applied_of_error {back : List String} {v : Value} {e : Error}
    {s s₁ : Random.Source} (h : evaluateChain c collection back v s = (.error e, s₁))
    (front : List String) :
    ∃ applied, applied.map Prod.fst <+: back.reverse ∧
      walk (noted (applyName c collection)) (front ++ back) v (s, []) =
        (.error e, (s₁, applied)) := by
  obtain ⟨more, name, f, last, w, s₂, rfl, hlast, hname, hf⟩ := exists_of_evaluateChain_error h
  have hfails : applyName c collection name w s₂ = (.error e, s₁) := by
    rw [applyName, hname]
    exact hf
  obtain ⟨applied, happlied, hwalk⟩ : ∃ applied, applied.map Prod.fst = last.reverse ∧
      walk (noted (applyName c collection)) (front ++ more ++ name :: last) v (s, []) =
        (.error e, (s₁, applied ++ [(name, w)])) :=
    walk_noted_of_error ((walk_applyName ..).trans hlast) hfails
  refine ⟨applied ++ [(name, w)], ⟨more.reverse, ?_⟩, ?_⟩
  · simp [happlied]
  · rw [← hwalk, List.append_assoc]

/-- **A chain is the composition of its functions.** Of a chain of two parts the one nearer the end
comes first, and the other one takes its value, and the source of random words as it left it. If the
first one fails, that is the failure of the chain, and what has been applied are names from the end
of that part: none of the other part. Names that no function has change neither the value nor the
failure nor the source, wherever they stand. -/
theorem evaluateChain_composes (c : Context) (collection : String) (front back : List String)
    (v : Value) (s : Random.Source) :
    (evaluateChain c collection (front ++ back) v s =
      match evaluateChain c collection back v s with
      | (.ok w, s₁) => evaluateChain c collection front w s₁
      | (.error e, s₁) => (.error e, s₁)) ∧
    (∀ e s₁, evaluateChain c collection back v s = (.error e, s₁) →
      ∃ applied, applied.map Prod.fst <+: back.reverse ∧
        walk (noted (applyName c collection)) (front ++ back) v (s, []) =
          (.error e, (s₁, applied))) ∧
    ∀ chain padded, Padded chain padded →
      evaluateChain c collection padded v s = evaluateChain c collection chain v s :=
  ⟨evaluateChain_append front back v s, fun _ _ h => exists_applied_of_error h front,
    fun _ _ h => evaluateChain_padded h v s⟩

/-- A look for the time fails, and in front of it nothing is drawn. -/
theorem evaluateChain_composes_failing :
    evaluateChain bareContext "c1" ["get", "timestamp"] (.list ["a", "b"]) (.ofWords [7]) =
        (.error (.invalidGet "1700000000"), .ofWords [7]) ∧
      Padded ["random", "get", "timestamp"] ["random", "", "get", "Timestamp", "timestamp"] ∧
      evaluateChain bareContext "c1" ["random", "", "get", "Timestamp", "timestamp"]
          (.list ["a", "b"]) (.ofWords [7]) =
        (.error (.invalidGet "1700000000"), .ofWords [7]) ∧
      ∃ applied, applied.map Prod.fst <+: ["timestamp", "get"] ∧
        walk (noted (applyName bareContext "c1")) ["random", "get", "timestamp"] (.list ["a", "b"])
            (.ofWords [7], []) =
          (.error (.invalidGet "1700000000"), (.ofWords [7], applied)) := by
  have hback : evaluateChain bareContext "c1" ["get", "timestamp"] (.list ["a", "b"])
      (.ofWords [7]) = (.error (.invalidGet "1700000000"), .ofWords [7]) := by
    rfl
  have hpadded : Padded ["random", "get", "timestamp"]
      ["random", "", "get", "Timestamp", "timestamp"] :=
    .kept _ (.unknown rfl (.kept _ (.unknown rfl (.kept _ .nil))))
  obtain ⟨hcomposed, happlied, hnames⟩ := evaluateChain_composes bareContext "c1" ["random"]
    ["get", "timestamp"] (.list ["a", "b"]) (.ofWords [7])
  rw [hback] at hcomposed
  exact ⟨hback, hpadded, (hnames _ _ hpadded).trans hcomposed, happlied _ _ hback⟩

end Courier.Template
