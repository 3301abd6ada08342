import Mathlib.Data.List.Forall2
import Courier.Workspace.Lookup

/-! The active environment of a collection stays until it is switched.

Environments are only ever added behind the ones that are there, and the first enabled one is
active. So an operation that switches no environment of a collection keeps what the store lists
for it as the beginning of what it lists from then on (`prefix_perform`), and with that its active
environment (`active?_run`). What a switch itself does is `Switched`, and `active?_of_switch`
puts the two together. -/

namespace Courier.Workspace.Store

/-! ### Runs -/

inductive Operation where
  | addEnvironment (e : Environment)
  | addVariable (v : Variable)
  | setActive (id : String)

/-- The store after an operation. A switch to an id that no environment has leaves it. -/
def perform (s : Store) : Operation → Store
  | .addEnvironment e => s.addEnvironment e
  | .addVariable v => s.addVariable v
  | .setActive id => (s.setActive? id).getD s

def run (s : Store) (ops : List Operation) : Store :=
  ops.foldl perform s

/-- The collection in which an operation switches the active environment. -/
def switchedIn? (s : Store) : Operation → Option String
  | .addEnvironment _ | .addVariable _ => none
  | .setActive id => (s.environments.find? (·.id = id)).map (·.collection)

/-- None of the operations switches the active environment of the collection. -/
def Spares (collection : String) : Store → List Operation → Prop
  | _, [] => True
  | s, op :: ops => s.switchedIn? op ≠ some collection ∧ Spares collection (s.perform op) ops

/-! ### One switch -/

/-- What a switch to `id` in a collection makes of an environment. -/
def switch (collection id : String) (e : Environment) : Environment :=
  if e.collection = collection then { e with enabled := e.id = id } else e

theorem switch_of_eq {collection : String} {e : Environment} (h : e.collection = collection)
    (id : String) : switch collection id e = { e with enabled := e.id = id } :=
  if_pos h

theorem switch_of_ne {collection : String} {e : Environment} (h : e.collection ≠ collection)
    (id : String) : switch collection id e = e :=
  if_neg h

/-- The second store is the first one after a switch to `id` in a collection. -/
structure Switched (collection id : String) (s s' : Store) : Prop where
  vars_eq : s'.vars = s.vars
  /-- The environments are the same ones in the same order, but for which are enabled. -/
  environments : List.Forall₂ (fun e e' => e' = { e with enabled := e'.enabled } ∧
    (e.collection ≠ collection → e' = e) ∧
    (e.collection = collection → (e'.enabled = true ↔ e'.id = id))) s.environments s'.environments

theorem setActive?_of_find? {s : Store} {id : String} {found : Environment}
    (h : s.environments.find? (·.id = id) = some found) :
    s.setActive? id =
      some { s with environments := s.environments.map (switch found.collection id) } := by
  rw [setActive?, h]
  rfl

theorem setActive?_of_find?_eq_none {s : Store} {id : String}
    (h : s.environments.find? (·.id = id) = none) : s.setActive? id = none := by
  rw [setActive?, h]
  rfl

theorem switched_map (s : Store) (collection id : String) :
    Switched collection id s
      { s with environments := s.environments.map (switch collection id) } where
  vars_eq := rfl
  environments := by
    rw [List.forall₂_map_right_iff, List.forall₂_same]
    intro e _
    by_cases h : e.collection = collection
    · rw [switch_of_eq h]
      exact ⟨rfl, fun hne => absurd h hne, fun _ => decide_eq_true_iff⟩
    · rw [switch_of_ne h]
      exact ⟨rfl, fun _ => rfl, fun heq => absurd heq h⟩

@[simp]
theorem collection_switch (collection id : String) (e : Environment) :
    (switch collection id e).collection = e.collection := by
  unfold switch
  split <;> rfl

@[simp]
theorem id_switch (collection id : String) (e : Environment) :
    (switch collection id e).id = e.id := by
  unfold switch
  split <;> rfl

theorem environmentsOf_map_switch (s : Store) (collection id other : String) :
    environmentsOf { s with environments := s.environments.map (switch collection id) } other =
      (s.environmentsOf other).map (switch collection id) := by
  simp only [environmentsOf, List.filter_map, Function.comp_def, collection_switch]

theorem collection_eq_of_mem {s : Store} {collection : String} {e : Environment}
    (h : e ∈ s.environmentsOf collection) : e.collection = collection :=
  of_decide_eq_true (List.mem_filter.1 h).2

theorem environmentsOf_map_switch_of_ne {collection other : String} (h : other ≠ collection)
    (s : Store) (id : String) :
    environmentsOf { s with environments := s.environments.map (switch collection id) } other =
      s.environmentsOf other := by
  have hkept : ∀ e ∈ s.environmentsOf other, switch collection id e = e := fun e he =>
    switch_of_ne (fun heq => h ((collection_eq_of_mem he).symm.trans heq)) id
  rw [environmentsOf_map_switch, List.map_congr_left hkept, List.map_id']

/-! ### The active environment -/

theorem activeOf_mono {listed more : List Environment} {id : String} (h : listed <+: more)
    (hactive : activeOf listed = some id) : activeOf more = some id := by
  obtain ⟨added, rfl⟩ := h
  obtain ⟨e, he, rfl⟩ := Option.map_eq_some_iff.1 hactive
  rw [activeOf, List.find?_append, he]
  rfl

/-- A switch enables the environments of its id and no others of the collection, so it is one of
these that comes first. -/
theorem activeOf_map_switch {environments : List Environment} {collection id : String}
    (hcollection : ∀ e ∈ environments, e.collection = collection)
    (hid : ∃ e ∈ environments, e.id = id) :
    activeOf (environments.map (switch collection id)) = some id := by
  have henabled : ∀ e ∈ environments, (switch collection id e).enabled = decide (e.id = id) :=
    fun e he => by rw [switch_of_eq (hcollection e he)]
  rw [activeOf, List.find?_map]
  cases hfind : environments.find? ((·.enabled) ∘ switch collection id) with
  | none =>
    obtain ⟨e, he, heid⟩ := hid
    have hoff := List.find?_eq_none.1 hfind e he
    rw [Function.comp, henabled e he] at hoff
    exact absurd (decide_eq_true heid) hoff
  | some e =>
    have hon := List.find?_some hfind
    rw [Function.comp, henabled e (List.mem_of_find?_eq_some hfind)] at hon
    exact congrArg some ((id_switch ..).trans (of_decide_eq_true hon))

/-! ### Operations that spare a collection -/

/-- What is listed for a collection stays listed for it, in front of what comes. -/
theorem prefix_perform {s : Store} {op : Operation} {collection : String}
    (h : s.switchedIn? op ≠ some collection) :
    s.environmentsOf collection <+: (s.perform op).environmentsOf collection := by
  cases op with
  | addEnvironment e =>
    rw [perform, addEnvironment, environmentsOf, environmentsOf, List.filter_append]
    exact List.prefix_append _ _
  | addVariable v => exact List.prefix_rfl
  | setActive id =>
    have hkept : (s.perform (.setActive id)).environmentsOf collection =
        s.environmentsOf collection := by
      cases hfind : s.environments.find? (·.id = id) with
      | none => rw [perform, setActive?_of_find?_eq_none hfind, Option.getD_none]
      | some found =>
        have hne : found.collection ≠ collection := by simpa [switchedIn?, hfind] using h
        rw [perform, setActive?_of_find? hfind, Option.getD_some,
          environmentsOf_map_switch_of_ne hne.symm]
    exact hkept ▸ List.prefix_rfl

theorem prefix_run {s : Store} {ops : List Operation} {collection : String}
    (h : Spares collection s ops) :
    s.environmentsOf collection <+: (s.run ops).environmentsOf collection := by
  induction ops generalizing s with
  | nil => exact List.prefix_rfl
  | cons op ops ih => exact (prefix_perform h.1).trans (ih h.2)

/-- An active environment stays active while the collection is spared. -/
theorem active?_run {s : Store} {ops : List Operation} {collection id : String}
    (h : Spares collection s ops) (hactive : s.listing.active? collection = .ok (some id)) :
    (s.run ops).listing.active? collection = .ok (some id) := by
  have hbefore : activeOf (s.environmentsOf collection) = some id := Except.ok.inj hactive
  exact congrArg Except.ok (activeOf_mono (prefix_run h) hbefore)

/-! ### Switching and what comes then -/

theorem active?_map_switch {s : Store} {id : String} {found : Environment}
    (h : s.environments.find? (·.id = id) = some found) :
    ({ s with environments := s.environments.map (switch found.collection id) } :
      Store).listing.active? found.collection = .ok (some id) := by
  have hmem : found ∈ s.environmentsOf found.collection :=
    List.mem_filter.2 ⟨List.mem_of_find?_eq_some h, decide_eq_true rfl⟩
  have hid : found.id = id := by simpa using List.find?_some h
  refine congrArg Except.ok ?_
  rw [environmentsOf_map_switch]
  exact activeOf_map_switch (fun e he => collection_eq_of_mem he) ⟨found, hmem, hid⟩

/-- **The active environment.** After any run, an active environment stays active for as long as
its collection is spared. A switch finds no environment of its id and changes nothing, or it goes
to the collection of the first one that it finds: there the environments of the id are enabled and
the others are not, nothing else changes, and the id is active for as long as the collection is
spared. -/
theorem active?_of_switch (start : Store) (before : List Operation) (id : String) :
    let s := start.run before
    (∀ collection active, s.listing.active? collection = .ok (some active) →
      ∀ later, Spares collection s later →
        (s.run later).listing.active? collection = .ok (some active)) ∧
      match s.setActive? id with
      | none => (∀ e ∈ s.environments, e.id ≠ id) ∧ s.perform (.setActive id) = s
      | some s' => s.perform (.setActive id) = s' ∧
          ∃ found, s.environments.find? (·.id = id) = some found ∧
            Switched found.collection id s s' ∧
            ∀ later, Spares found.collection s' later →
              (s'.run later).listing.active? found.collection = .ok (some id) := by
  intro s
  refine ⟨fun collection active hactive later hspares => active?_run hspares hactive, ?_⟩
  cases hfind : s.environments.find? (·.id = id) with
  | none =>
    have hset : s.setActive? id = none := setActive?_of_find?_eq_none hfind
    rw [perform, hset]
    exact ⟨by simpa using hfind, Option.getD_none⟩
  | some found =>
    rw [perform, setActive?_of_find? hfind]
    exact ⟨Option.getD_some, found, rfl, switched_map s found.collection id,
      fun later hspares => active?_run hspares (active?_map_switch hfind)⟩

/-- An environment that is enabled when it is added does not take over. -/
example :
    (empty.run [.addEnvironment { id := "dev", collection := "api", enabled := true },
      .addEnvironment { id := "prod", collection := "api" }, .setActive "prod",
      .addEnvironment { id := "dev", collection := "api", enabled := true },
      .setActive "missing"]).listing.active? "api" = .ok (some "prod") := by
  rfl

end Courier.Workspace.Store
