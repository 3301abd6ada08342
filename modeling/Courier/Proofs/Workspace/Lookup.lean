import Courier.Workspace.Lookup

/-! Which variable a name stands for.

The candidates for a name are the enabled variables of that name, and lookup takes the first one
that is bound to the active environment, or else the first unbound one (`find?_listing`). A variable
that is a candidate for neither of these scopes may stand anywhere in the store (`Unused.meant?_eq`),
and so may an environment of another collection. `find?_store` puts this together. -/

namespace Courier.Workspace.Store

/-! ### What is looked for -/

section
variable (s : Store) (collection name : String)

/-- The id of the first enabled environment of a collection. -/
def enabledId? : Option String :=
  (s.environments.find? fun e => e.collection = collection ∧ e.enabled = true).map (·.id)

/-- The enabled variables of a name in a category of a collection. -/
def named (category : Category) : List Variable :=
  s.vars.filter fun v =>
    v.collection = collection ∧ v.category = category ∧ v.enabled = true ∧ v.name = name

/-- The variables that a name may stand for, those of customization behind the others. -/
def candidates : List Variable :=
  s.named collection name .environment ++ s.named collection name .customize

/-- The first candidate that is bound to an environment, or to none. -/
def candidateFor? (scope : Option String) : Option Variable :=
  (s.candidates collection name).find? (·.environment = scope)

/-- The variable that a name stands for. -/
def meant? : Option Variable :=
  match s.enabledId? collection with
  | none => s.candidateFor? collection name none
  | some id => (s.candidateFor? collection name (some id)).or (s.candidateFor? collection name none)

end

/-- Lookup for this name has no use for the variable. -/
inductive Unused (collection name : String) (active : Option String) (v : Variable) : Prop where
  | elsewhere (h : v.collection ≠ collection)
  | globalHeader (h : v.category = .globalReqHeaders)
  | disabled (h : v.enabled = false)
  | otherName (h : v.name ≠ name)
  | otherEnvironment (id : String) (h : v.environment = some id) (hactive : active ≠ some id)

/-- Both stores list the same for the lookup of variables in the collection. -/
structure SameListings (collection : String) (s s' : Store) : Prop where
  environments : s'.environmentsOf collection = s.environmentsOf collection
  bound : s'.variablesOf collection .environment = s.variablesOf collection .environment
  custom : s'.variablesOf collection .customize = s.variablesOf collection .customize

/-! ### Lookup -/

section
variable (s : Store) (collection name : String)

theorem activeOf_environmentsOf :
    activeOf (s.environmentsOf collection) = s.enabledId? collection := by
  simp [activeOf, environmentsOf, enabledId?, List.find?_filter]

theorem filter_variablesOf (category : Category) :
    (s.variablesOf collection category).filter (fun v => v.enabled ∧ v.name = name) =
      s.named collection name category := by
  rw [variablesOf, named, List.filter_filter]
  congr 1
  funext v
  grind

/-- What is found for a scope is the first candidate for it. -/
theorem boundTo?_variablesOf (scope : Option String) :
    boundTo? name scope
        (s.variablesOf collection .environment ++ s.variablesOf collection .customize) =
      s.candidateFor? collection name scope := by
  rw [candidateFor?, candidates, ← filter_variablesOf, ← filter_variablesOf, ← List.filter_append,
    List.find?_filter, boundTo?]
  simp

theorem find?_listing : s.listing.find? collection name = .ok (s.meant? collection name) := by
  have hfind : s.listing.find? collection name =
      .ok (choose? name (activeOf (s.environmentsOf collection))
        (s.variablesOf collection .environment ++ s.variablesOf collection .customize)) := rfl
  rw [hfind, activeOf_environmentsOf, choose?, meant?, boundTo?_variablesOf, boundTo?_variablesOf]
  cases s.enabledId? collection with
  | none => cases s.candidateFor? collection name none <;> rfl
  | some id =>
    dsimp only
    cases s.candidateFor? collection name (some id) <;> rfl

/-- Only the listings of the collection count. -/
theorem SameListings.find?_eq {s s' : Store} {collection : String} (h : SameListings collection s s')
    (name : String) : s'.listing.find? collection name = s.listing.find? collection name := by
  simp only [Listing.find?, Listing.active?, listing, h.environments, h.bound, h.custom]

end

/-! ### What lookup has no use for -/

theorem find?_insert {α : Type} {p : α → Bool} {x : α} (h : p x = false) (front back : List α) :
    (front ++ x :: back).find? p = (front ++ back).find? p := by
  rw [List.find?_append, List.find?_append, List.find?_cons_of_neg (by simp [h])]

theorem enabledId?_insert {collection : String} {e : Environment} (h : e.collection ≠ collection)
    (front back : List Environment) (vars : List Variable) :
    enabledId? ⟨front ++ e :: back, vars⟩ collection =
      enabledId? ⟨front ++ back, vars⟩ collection := by
  rw [enabledId?, enabledId?, find?_insert (by simp [h])]

/-- An environment of another collection changes nothing for a name. -/
theorem meant?_insert_environment {collection : String} {e : Environment}
    (h : e.collection ≠ collection) (name : String) (front back : List Environment)
    (vars : List Variable) :
    meant? ⟨front ++ e :: back, vars⟩ collection name =
      meant? ⟨front ++ back, vars⟩ collection name := by
  rw [meant?, enabledId?_insert h, meant?]
  rfl

/-- Whether a variable is a candidate of a category for a scope. -/
def counts (collection name : String) (scope : Option String) (category : Category)
    (v : Variable) : Bool :=
  (v.collection = collection ∧ v.category = category ∧ v.enabled = true ∧ v.name = name) ∧
    v.environment = scope

theorem candidateFor?_eq (s : Store) (collection name : String) (scope : Option String) :
    s.candidateFor? collection name scope =
      (s.vars.find? (counts collection name scope .environment)).or
        (s.vars.find? (counts collection name scope .customize)) := by
  rw [candidateFor?, candidates, named, named, List.find?_append, List.find?_filter,
    List.find?_filter]
  simp only [decide_eq_true_eq]
  rfl

namespace Unused
variable {collection name : String} {active scope : Option String} {v : Variable}
  (h : Unused collection name active v)
include h

/-- An unused variable is no candidate for the scopes that are looked through. -/
theorem counts_eq (hscope : scope = active ∨ scope = none) {category : Category}
    (hcategory : category ≠ .globalReqHeaders) :
    counts collection name scope category v = false := by
  rw [counts, decide_eq_false_iff_not]
  rintro ⟨⟨hcollection, hkind, henabled, hname⟩, henvironment⟩
  cases h with
  | elsewhere h => exact h hcollection
  | globalHeader h => exact hcategory (hkind.symm.trans h)
  | disabled h => exact absurd henabled (by simp [h])
  | otherName h => exact h hname
  | otherEnvironment id h hactive =>
    rcases hscope with rfl | rfl
    · exact hactive (henvironment.symm.trans h)
    · cases henvironment.symm.trans h

theorem candidateFor?_insert (hscope : scope = active ∨ scope = none)
    (environments : List Environment) (front back : List Variable) :
    candidateFor? ⟨environments, front ++ v :: back⟩ collection name scope =
      candidateFor? ⟨environments, front ++ back⟩ collection name scope := by
  rw [candidateFor?_eq, candidateFor?_eq, find?_insert (h.counts_eq hscope (by decide)),
    find?_insert (h.counts_eq hscope (by decide))]

end Unused

/-- A variable without use changes nothing for a name. -/
theorem meant?_insert_variable {collection name : String} {environments : List Environment}
    {front back : List Variable} {v : Variable}
    (h : Unused collection name (enabledId? ⟨environments, front ++ back⟩ collection) v) :
    meant? ⟨environments, front ++ v :: back⟩ collection name =
      meant? ⟨environments, front ++ back⟩ collection name := by
  have hactive : enabledId? ⟨environments, front ++ v :: back⟩ collection =
      enabledId? ⟨environments, front ++ back⟩ collection := rfl
  rw [meant?, hactive, meant?, h.candidateFor?_insert (.inr rfl)]
  cases hid : enabledId? ⟨environments, front ++ back⟩ collection with
  | none => rfl
  | some id =>
    dsimp only
    rw [h.candidateFor?_insert (.inl hid.symm)]

/-! ### The variable of a name -/

/-- **The variable of a name.** Lookup finds the first candidate for the active environment, or else
the first one for no environment. An environment of another collection and a variable without use
may be added anywhere, and stores that list the same for the collection find the same. -/
theorem find?_store (s : Store) (collection name : String) :
    s.listing.find? collection name = .ok (s.meant? collection name) ∧
      (∀ front back e, s.environments = front ++ back → e.collection ≠ collection →
        ({ s with environments := front ++ e :: back } : Store).listing.find? collection name =
          s.listing.find? collection name) ∧
      (∀ front back v, s.vars = front ++ back → Unused collection name (s.enabledId? collection) v →
        ({ s with vars := front ++ v :: back } : Store).listing.find? collection name =
          s.listing.find? collection name) ∧
      ∀ s', SameListings collection s s' →
        s'.listing.find? collection name = s.listing.find? collection name := by
  obtain ⟨environments, vars⟩ := s
  refine ⟨find?_listing .., ?_, ?_, fun s' h => h.find?_eq name⟩
  · rintro front back e rfl he
    rw [find?_listing, find?_listing, meant?_insert_environment he]
  · rintro front back v rfl hv
    rw [find?_listing, find?_listing, meant?_insert_variable hv]

/-- A variable bound to the active environment comes before an unbound one, also if it is of the
later category. -/
example :
    let unbound : Variable :=
      { id := "1", category := .environment, collection := "api", name := "host", value := "b.test" }
    let bound : Variable :=
      { id := "2", category := .customize, collection := "api", environment := some "dev"
        name := "host", value := "a.test" }
    Store.meant? ⟨[{ id := "dev", collection := "api", enabled := true }], [unbound, bound]⟩ "api"
      "host" = some bound := by
  rfl

end Courier.Workspace.Store
