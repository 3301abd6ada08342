import Courier.Proofs.Json.Record
import Courier.Workspace.Lookup

/-! What is written for a store is what it loads.

The documents of some environments and variables are those of `DocumentOf`: the members of an object
may stand in any order. Each entry is read from its object (`Environment.ofDocument?_ofJson`,
`Variable.ofDocument?_ofJson`) and goes behind the ones before it, so the text of such a document
loads the store that has exactly these entries (`DocumentOf.parse_eq`). `parse_document` tells what
it lists. -/

namespace Courier.Workspace

open Json (SameMembers Exact)
open Json.Document

/-! ### Entries -/

theorem status?_statusJson (enabled : Bool) :
    status? (ofJson (statusJson enabled)) = some enabled := by
  cases enabled <;> decide

theorem exact_statusJson (enabled : Bool) : Exact (statusJson enabled) :=
  .string _

theorem optionalId?_getD {id : Option String} (h : id ≠ some "") :
    optionalId? (ofJson (.string (id.getD ""))) = some id := by
  cases id with
  | none => rfl
  | some id =>
    have hne : id ≠ "" := fun heq => h (congrArg some heq)
    simp [ofJson, optionalId?, hne]

/-- The empty id is read as none. -/
example : optionalId? (ofJson (.string ((some "").getD ""))) = some none := by
  rfl

theorem Category.ofName?_name (c : Category) : Category.ofName? c.name = some c := by
  cases c <;> decide

namespace Environment
variable {e : Environment} {j : Json} (h : SameMembers e.toJson j)
include h

theorem ofDocument?_ofJson : ofDocument? (ofJson j) = some e := by
  have hfields := fields?_of_sameMembers (by simp) h
  simp only [List.map_cons, List.map_nil] at hfields
  simp [ofDocument?, hfields, status?_statusJson]

theorem exact_of_toJson : Exact j := by
  refine Json.exact_of_sameMembers (by simp) h ?_
  simp [Exact.string, exact_statusJson]

end Environment

namespace Variable
variable {v : Variable} {j : Json} (h : SameMembers v.toJson j)
include h

theorem ofDocument?_ofJson (henvironment : v.environment ≠ some "") :
    ofDocument? (ofJson j) = some v := by
  have hfields := fields?_of_sameMembers (by simp) h
  simp only [List.map_cons, List.map_nil] at hfields
  simp [ofDocument?, hfields, status?_statusJson, optionalId?_getD henvironment,
    Category.ofName?_name]

theorem exact_of_toJson : Exact j := by
  refine Json.exact_of_sameMembers (by simp) h ?_
  simp [Exact.string, exact_statusJson]

end Variable

/-! ### Stores -/

namespace Store

/-- A document of these entries, the members of each object perhaps in another order. -/
inductive DocumentOf (environments : List Environment) (vars : List Variable) : Json → Prop where
  | intro {es vs : List Json} {document : Json}
    (henvironments : List.Forall₂ SameMembers (environments.map Environment.toJson) es)
    (hvars : List.Forall₂ SameMembers (vars.map Variable.toJson) vs)
    (h : SameMembers (.ofMembers [("environments", .array es), ("variables", .array vs)])
      document) : DocumentOf environments vars document

/-- The store lists these entries, each in its place only and all in their order. -/
structure Lists (s : Store) (environments : List Environment) (vars : List Variable) : Prop where
  environmentsOf_eq : ∀ collection, s.listing.environmentsOf collection =
    .ok (environments.filter (·.collection = collection))
  variablesOf_eq : ∀ collection category, s.listing.variablesOf collection category =
    .ok (vars.filter fun v => v.collection = collection ∧ v.category = category)
  environment_unique : ∀ e ∈ environments, ∃! collection, ∃ listed,
    s.listing.environmentsOf collection = .ok listed ∧ e ∈ listed
  variable_unique : ∀ v ∈ vars, ∃! place : String × Category, ∃ listed,
    s.listing.variablesOf place.1 place.2 = .ok listed ∧ v ∈ listed

theorem lists (environments : List Environment) (vars : List Variable) :
    Lists ⟨environments, vars⟩ environments vars where
  environmentsOf_eq := fun _ => rfl
  variablesOf_eq := fun _ _ => rfl
  environment_unique := fun e he => by
    refine ⟨e.collection, ⟨_, rfl, List.mem_filter.2 ⟨he, decide_eq_true rfl⟩⟩, ?_⟩
    rintro collection ⟨listed, hlisted, hmem⟩
    cases hlisted
    exact (of_decide_eq_true (List.mem_filter.1 hmem).2).symm
  variable_unique := fun v hv => by
    refine ⟨(v.collection, v.category), ⟨_, rfl, List.mem_filter.2 ⟨hv, decide_eq_true ⟨rfl, rfl⟩⟩⟩,
      ?_⟩
    rintro ⟨collection, category⟩ ⟨listed, hlisted, hmem⟩
    cases hlisted
    obtain ⟨rfl, rfl⟩ := of_decide_eq_true (List.mem_filter.1 hmem).2
    rfl

theorem foldl_addEnvironment (s : Store) (environments : List Environment) :
    environments.foldl addEnvironment s =
      { s with environments := s.environments ++ environments } := by
  induction environments generalizing s with
  | nil => simp
  | cons e environments ih => simp [ih, addEnvironment]

theorem foldl_addVariable (s : Store) (vars : List Variable) :
    vars.foldl addVariable s = { s with vars := s.vars ++ vars } := by
  induction vars generalizing s with
  | nil => simp
  | cons v vars ih => simp [ih, addVariable]

variable {environments : List Environment} {vars : List Variable} {j : Json}

theorem DocumentOf.exact (h : DocumentOf environments vars j) : Exact j := by
  obtain ⟨henvironments, hvars, h⟩ := h
  rw [List.forall₂_map_left_iff] at henvironments hvars
  have hes := henvironments.imp fun _ _ => Environment.exact_of_toJson
  have hvs := hvars.imp fun _ _ => Variable.exact_of_toJson
  refine Json.exact_of_sameMembers (by simp) h ?_
  simp only [List.forall_mem_cons]
  exact ⟨Json.exact_array_of_forall₂ hes, Json.exact_array_of_forall₂ hvs, nofun⟩

/-- The store of a document has its entries and no others. -/
theorem DocumentOf.ofDocument?_ofJson (h : DocumentOf environments vars j)
    (hbound : ∀ v ∈ vars, v.environment ≠ some "") :
    ofDocument? (ofJson j) = some ⟨environments, vars⟩ := by
  obtain ⟨henvironments, hvars, h⟩ := h
  rw [List.forall₂_map_left_iff] at henvironments hvars
  have hfields := fields?_of_sameMembers (by simp) h
  simp only [List.map_cons, List.map_nil] at hfields
  have hes := list?_of_forall₂ (henvironments.imp fun _ _ => Environment.ofDocument?_ofJson)
  have hvs := list?_of_forall₂ (((List.forall₂_and_left ..).2 ⟨hbound, hvars⟩).imp
    fun _ _ hv => Variable.ofDocument?_ofJson hv.2 hv.1)
  simp [ofDocument?, hfields, hes, hvs, foldl_addEnvironment, foldl_addVariable, empty]

theorem documentOf_documentJson (environments : List Environment) (vars : List Variable) :
    DocumentOf environments vars (documentJson environments vars) := by
  refine .intro ?_ ?_ (Json.sameMembers_ofMembers _)
  · rw [List.forall₂_map_left_iff, List.forall₂_map_right_iff, List.forall₂_same]
    exact fun _ _ => Json.sameMembers_ofMembers _
  · rw [List.forall₂_map_left_iff, List.forall₂_map_right_iff, List.forall₂_same]
    exact fun _ _ => Json.sameMembers_ofMembers _

theorem DocumentOf.parse_eq {text : String} (h : DocumentOf environments vars j)
    (hbound : ∀ v ∈ vars, v.environment ≠ some "")
    (htext : Json.Token.all? text.toList = Json.Token.all? j.render.toList) :
    parse text = .ok ⟨environments, vars⟩ := by
  have hdocument : Json.Document.parse? text = some (ofJson j) := by
    rw [← parse?_render h.exact, Json.Document.parse?, Json.Document.parse?, htext]
  rw [parse, hdocument, Option.bind_some, h.ofDocument?_ofJson hbound]

/-- **What is written is what is loaded.** The entries have a document, and every text with the
tokens of a document of theirs loads a store that lists each of them where it belongs and nowhere
else, as it is and in the given order. A variable must not be bound to the empty id, which is how
no environment is written. -/
theorem parse_document (environments : List Environment) (vars : List Variable)
    (hbound : ∀ v ∈ vars, v.environment ≠ some "") :
    DocumentOf environments vars (documentJson environments vars) ∧
      ∀ j text, DocumentOf environments vars j →
        Json.Token.all? text.toList = Json.Token.all? j.render.toList →
        ∃ s, parse text = .ok s ∧ s.Lists environments vars :=
  ⟨documentOf_documentJson environments vars, fun _ _ h htext =>
    ⟨_, h.parse_eq hbound htext, lists environments vars⟩⟩

theorem parse_document_two_collections :
    let dev : Environment :=
      { id := "dev", collection := "api", name := "\"dev\"\n", enabled := true }
    let host : Variable :=
      { id := "1", category := .environment, collection := "api", environment := some "dev"
        name := "host", value := "a\\b", enabled := false }
    let token : Variable :=
      { id := "2", category := .customize, collection := "web", name := "token" }
    (∀ v ∈ [host, token], v.environment ≠ some "") ∧
      ∃ s, parse (documentJson [dev] [host, token]).render = .ok s ∧
        s.listing.environmentsOf "api" = .ok [dev] ∧
        s.listing.variablesOf "api" .environment = .ok [host] ∧
        s.listing.variablesOf "web" .customize = .ok [token] := by
  intro dev host token
  have hbound : ∀ v ∈ [host, token], v.environment ≠ some "" := by decide
  obtain ⟨hdocument, hload⟩ := parse_document [dev] [host, token] hbound
  obtain ⟨s, hs, hlists⟩ := hload _ _ hdocument rfl
  refine ⟨hbound, s, hs, ?_, ?_, ?_⟩
  · rw [hlists.environmentsOf_eq]
    rfl
  · rw [hlists.variablesOf_eq]
    rfl
  · rw [hlists.variablesOf_eq]
    rfl

end Store

end Courier.Workspace
