import Mathlib.Data.List.Basic
import Courier.Proofs.Template.Argument
import Courier.Proofs.Template.Chain
import Courier.Proofs.Template.Look
import Courier.Proofs.Template.Written
import Courier.Proofs.Workspace.Lookup

/-! When a call fails.

With a store in memory only two kinds of functions can fail: a look into a response whose parameter
is not two texts with a comma between them, and a file that cannot be read (`Function.Fails`). A call
fails where its chain, walked from its end, comes to such a function with such a value, and the
functions in front of it are not applied any more (`evaluate_eq_error_iff`). Where a look comes first,
its parameter is the argument as it was written, and the commas of that decide; but what it finds may
be no parameter for another look in front of it (`comma_not_enough`). -/

namespace Courier.Template

/-- Why a function has no value at `v`. -/
inductive Function.Fails (c : Context) (v : Value) : Function → Error → Prop where
  | get (h : v.toText.toList.count ',' ≠ 1) : Fails c v .get (.invalidGet v.toText)
  | readTextFile {reason : Files.Error}
      (h : c.files.readText (fileTarget c.settings v).1 (fileTarget c.settings v).2 =
        .error reason) : Fails c v .readTextFile (.file reason)
  | readFile {reason : Files.Error}
      (h : c.files (fileTarget c.settings v).1 (fileTarget c.settings v).2 = .error reason) :
      Fails c v .readFile (.file reason)

/-! ### One function -/

theorem getParameters?_eq_none_iff {parameter : String} :
    getParameters? parameter = none ↔ parameter.toList.count ',' ≠ 1 := by
  have hlength : ((Text.split ',' parameter).map Text.strip).length =
      parameter.toList.count ',' + 1 := by
    rw [List.length_map, Text.split, List.length_map, Text.length_splitOn]
  rw [getParameters?]
  split
  · next id path hparts =>
    rw [hparts] at hlength
    simpa using hlength.symm
  · next hparts =>
    refine ⟨fun _ hone => ?_, fun _ => rfl⟩
    rw [hone] at hlength
    obtain ⟨id, path, htwo⟩ := List.length_eq_two.1 hlength
    exact hparts id path htwo

theorem lookInto_eq_error_iff {c : Context} {v : Value} {e : Error} :
    lookInto c v = .error e ↔ v.toText.toList.count ',' ≠ 1 ∧ e = .invalidGet v.toText := by
  rw [← getParameters?_eq_none_iff]
  cases h : getParameters? v.toText with
  | none =>
    rw [lookInto, h]
    exact ⟨fun he => ⟨rfl, (Except.error.inj he).symm⟩, fun he => congrArg _ he.2.symm⟩
  | some parameters =>
    obtain ⟨id, path⟩ := parameters
    rw [lookInto_of_parameters h]
    simp

theorem lookUp_store {c : Context} {store : Workspace.Store} (h : c.listing = store.listing)
    (collection : String) (v : Value) : ∃ w, lookUp c collection v = .ok w := by
  rw [lookUp, h, Workspace.Store.find?_listing]
  cases store.meant? collection v.toText <;> exact ⟨_, rfl⟩

theorem mapError_map_eq_error_iff {ε ε' α β : Type} {r : Except ε α} {f : α → β} {g : ε → ε'}
    {e : ε'} : (r.map f).mapError g = .error e ↔ ∃ reason, r = .error reason ∧ e = g reason := by
  cases r with
  | error reason =>
    show Except.error (g reason) = _ ↔ _
    simp [eq_comm]
  | ok a =>
    show Except.ok (f a) = _ ↔ _
    simp

/-- No other function fails, and a failure draws no random words. -/
theorem Function.apply_eq_error_iff {c : Context} {store : Workspace.Store}
    (hstore : c.listing = store.listing) {collection : String} {f : Function} {v : Value}
    {e : Error} {s s' : Random.Source} :
    f.apply c collection v s = (.error e, s') ↔ f.Fails c v e ∧ s' = s := by
  cases f with
  | get =>
    rw [apply, Prod.mk.injEq, lookInto_eq_error_iff, eq_comm (a := s)]
    refine and_congr_left fun _ => ⟨?_, ?_⟩
    · rintro ⟨hcount, rfl⟩
      exact .get hcount
    · rintro ⟨hcount⟩
      exact ⟨hcount, rfl⟩
  | readTextFile =>
    simp only [apply, Prod.mk.injEq, mapError_map_eq_error_iff, eq_comm (a := s)]
    refine and_congr_left fun _ => ⟨?_, ?_⟩
    · rintro ⟨reason, hread, rfl⟩
      exact .readTextFile hread
    · intro hfails
      cases hfails with
      | readTextFile hread => exact ⟨_, hread, rfl⟩
  | readFile =>
    simp only [apply, Prod.mk.injEq, mapError_map_eq_error_iff, eq_comm (a := s)]
    refine and_congr_left fun _ => ⟨?_, ?_⟩
    · rintro ⟨reason, hread, rfl⟩
      exact .readFile hread
    · intro hfails
      cases hfails with
      | readFile hread => exact ⟨_, hread, rfl⟩
  | env =>
    obtain ⟨w, hw⟩ := lookUp_store hstore collection v
    rw [apply, hw]
    refine ⟨fun hrun => ?_, fun hfails => ?_⟩
    · cases hrun
    · cases hfails.1
  | base64 | openFile | timestamp | md5 | sha256 | random =>
    refine ⟨fun hrun => ?_, fun hfails => ?_⟩
    · cases hrun
    · cases hfails.1

/-! ### Chains -/

/-- Walking the chain of the call from its end, one comes to this name with this value. -/
structure Call.Reaches (c : Context) (call : Call) (s : Random.Source) (front : List String)
    (name : String) (back : List String) (v : Value) (s' : Random.Source) : Prop where
  chain : call.chain = front ++ name :: back
  value : evaluateChain c call.collection back (.ofArgument call.argument) s = (.ok v, s')

theorem Call.Reaches.evaluate_eq {c : Context} {call : Call} {s s' : Random.Source}
    {front back : List String} {name : String} {v : Value}
    (h : call.Reaches c s front name back v s') {f : Function}
    (hname : Function.ofName? name = some f) {e : Error}
    (he : f.apply c call.collection v s' = (.error e, s')) :
    call.evaluate c s = (.error e, s') := by
  rw [Call.evaluate, h.chain]
  exact evaluateChain_append_of_error ((evaluateChain_cons hname h.value).trans he) front

/-- A look with no function behind it looks for what the chain is given. -/
theorem evaluateChain_get {c : Context} {collection name : String} {back : List String}
    (hname : Function.ofName? name = some .get)
    (hback : ∀ other ∈ back, Function.ofName? other = none) (v : Value) (s : Random.Source) :
    evaluateChain c collection (name :: back) v s = (lookInto c v, s) :=
  evaluateChain_cons hname (evaluateChain_unknown hback v s)

/-- With one comma in the argument, a look finds what the two items at its sides ask for. -/
theorem lookInto_parse {raw : String} (h : raw.toList.count ',' = 1) (c : Context) :
    ∃ first second, raw.toList = first ++ ',' :: second ∧
      lookInto c (.ofArgument (.parse raw)) =
        .ok (c.found (Text.strip (String.ofList (Argument.item first)))
          (Text.strip (String.ofList (Argument.item second))) (.ofArgument (.parse raw))) := by
  have hlength : (Text.splitOn ',' raw.toList).length = 2 := by rw [Text.length_splitOn, h]
  obtain ⟨first, second, hpieces⟩ := List.length_eq_two.1 hlength
  refine ⟨first, second, ?_, lookInto_of_parameters ?_ c⟩
  · rw [← Text.intercalate_splitOn ',' raw.toList, hpieces]
    simp
  · rw [getParameters?, Argument.split_toText_parse, Argument.items, hpieces]
    rfl

/-- **When a call fails.** It fails where its chain, walked from its end, comes to a function that
fails at the value it has there. The functions behind that one have been applied, and those in front
of it are not. A look with no function behind it fails exactly where the argument does not have one
comma; otherwise it finds what the items at the sides of the comma ask for, without their blanks, and
the functions in front of it go on from there. -/
theorem evaluate_eq_error_iff {c : Context} {store : Workspace.Store}
    (hstore : c.listing = store.listing) (call : Call) (s : Random.Source) :
    (∀ e s', call.evaluate c s = (.error e, s') ↔
      ∃ front name f back v, call.Reaches c s front name back v s' ∧
        Function.ofName? name = some f ∧ f.Fails c v e) ∧
    (∀ front name f back v s' e, call.Reaches c s front name back v s' →
      Function.ofName? name = some f → f.Fails c v e →
        ∃ applied, applied.map Prod.fst = back.reverse ∧
          walk (noted (applyName c call.collection)) call.chain (.ofArgument call.argument) (s, []) =
            (.error e, (s', applied ++ [(name, v)]))) ∧
    ∀ raw front name back, call.argument = .parse raw → call.chain = front ++ name :: back →
      Function.ofName? name = some .get → (∀ other ∈ back, Function.ofName? other = none) →
        ((∃ parameter, evaluateChain c call.collection (name :: back) (.ofArgument call.argument) s =
            (.error (.invalidGet parameter), s)) ↔ raw.toList.count ',' ≠ 1) ∧
          (raw.toList.count ',' ≠ 1 → call.evaluate c s =
            (.error (.invalidGet (Value.ofArgument call.argument).toText), s)) ∧
          (raw.toList.count ',' = 1 → ∃ first second, raw.toList = first ++ ',' :: second ∧
            call.evaluate c s = evaluateChain c call.collection front
              (c.found (Text.strip (String.ofList (Argument.item first)))
                (Text.strip (String.ofList (Argument.item second))) (.ofArgument call.argument)) s) := by
  refine ⟨fun e s' => ⟨fun h => ?_, ?_⟩, ?_, ?_⟩
  · obtain ⟨front, name, f, back, w, s₁, hchain, hback, hname, hf⟩ := exists_of_evaluateChain_error h
    obtain ⟨hfails, rfl⟩ := (Function.apply_eq_error_iff hstore).1 hf
    exact ⟨front, name, f, back, w, ⟨hchain, hback⟩, hname, hfails⟩
  · rintro ⟨front, name, f, back, v, hreaches, hname, hfails⟩
    exact hreaches.evaluate_eq hname ((Function.apply_eq_error_iff hstore).2 ⟨hfails, rfl⟩)
  · intro front name f back v s' e hreaches hname hfails
    rw [hreaches.chain]
    refine walk_noted_of_error ((walk_applyName ..).trans hreaches.value) ?_
    rw [applyName, hname]
    exact (Function.apply_eq_error_iff hstore).2 ⟨hfails, rfl⟩
  · intro raw front name back hargument hchain hname hback
    have hlook : evaluateChain c call.collection (name :: back) (.ofArgument call.argument) s =
        (lookInto c (.ofArgument call.argument), s) := evaluateChain_get hname hback _ s
    have herror {e : Error} : lookInto c (.ofArgument call.argument) = .error e ↔
        raw.toList.count ',' ≠ 1 ∧ e = .invalidGet (Value.ofArgument call.argument).toText := by
      rw [lookInto_eq_error_iff, hargument, Argument.count_comma_toText_parse]
    rw [Call.evaluate, hchain]
    refine ⟨⟨?_, fun hcount => ?_⟩, fun hcount => ?_, fun hcount => ?_⟩
    · rintro ⟨parameter, hfails⟩
      exact (herror.1 (Prod.mk.inj (hlook.symm.trans hfails)).1).1
    · exact ⟨_, hlook.trans (congrArg (·, s) (herror.2 ⟨hcount, rfl⟩))⟩
    · exact evaluateChain_append_of_error
        (hlook.trans (congrArg (·, s) (herror.2 ⟨hcount, rfl⟩))) front
    · obtain ⟨first, second, hraw, hfound⟩ := lookInto_parse hcount c
      rw [← hargument] at hfound
      exact ⟨first, second, hraw,
        evaluateChain_append_of_ok (hlook.trans (congrArg (·, s) hfound)) front⟩

/-! ### A call with two looks -/

/-- A response with a number in its body. -/
def numbered : Http.Response where
  api := "r1"
  status := 200
  headers := []
  body := Utf8.bytes "\x7b\"a\": 7\x7d"
  latency := 1

def numberedContext : Context :=
  { bareContext with latest := fun id => if id = "r1" then some numbered else none }

/-- A call that looks where what it finds tells it to. -/
def nested : Call where
  collection := "c1"
  text := "\x7b\x7bmd5.get.get.trim(r1, 'a')\x7d\x7d"
  start := 0
  stop := 29
  chain := ["md5", "get", "get", "trim"]
  argument := .parse "r1, 'a'"

/-- What the first look finds is no parameter for the second one. -/
theorem reaches_nested (s : Random.Source) :
    ∃ v, nested.Reaches numberedContext s ["md5"] "get" ["get", "trim"] v s ∧
      Function.Fails numberedContext v .get (.invalidGet "7") := by
  let v := numberedContext.found "r1" "a" (.ofArgument nested.argument)
  have hlook : lookInto numberedContext (.ofArgument nested.argument) = .ok v :=
    lookInto_of_parameters (by decide +kernel) numberedContext
  have hget : evaluateChain numberedContext nested.collection ["get", "trim"]
      (.ofArgument nested.argument) s = (.ok v, s) := by
    rw [evaluateChain_get (by decide) (by decide), hlook]
  have hv : v.toText = "7" := by decide +kernel
  exact ⟨v, ⟨rfl, hget⟩, hv ▸ .get (by rw [hv]; decide)⟩

theorem evaluate_eq_error_iff_nested :
    numberedContext.listing = Workspace.Store.empty.listing ∧
      nested.evaluate numberedContext (.ofWords []) = (.error (.invalidGet "7"), .ofWords []) ∧
      ∃ v applied, applied.map Prod.fst = ["trim", "get"] ∧
        walk (noted (applyName numberedContext "c1")) nested.chain (.ofArgument nested.argument)
            (.ofWords [], []) =
          (.error (.invalidGet "7"), (.ofWords [], applied ++ [("get", v)])) := by
  have hstore : numberedContext.listing = Workspace.Store.empty.listing := rfl
  obtain ⟨v, hreaches, hfails⟩ := reaches_nested (.ofWords [])
  obtain ⟨hiff, happlied, -⟩ := evaluate_eq_error_iff hstore nested (.ofWords [])
  refine ⟨hstore, (hiff _ _).2 ⟨_, _, _, _, v, hreaches, rfl, hfails⟩, v, ?_⟩
  exact happlied _ _ _ _ v _ _ hreaches rfl hfails

/-- One comma in the argument is not enough where a look has a look behind it. -/
theorem comma_not_enough :
    ¬∀ (c : Context) (store : Workspace.Store) (call : Call) (s : Random.Source) (raw name : String)
      (front back : List String), c.listing = store.listing → call.argument = .parse raw →
      call.chain = front ++ name :: back → Function.ofName? name = some .get →
      (∀ other ∈ back, Function.ofName? other = none) →
      ((∃ parameter s', call.evaluate c s = (.error (.invalidGet parameter), s')) ↔
        raw.toList.count ',' ≠ 1) := by
  intro h
  obtain ⟨v, hreaches, hfails⟩ := reaches_nested (.ofWords [])
  have hstore : numberedContext.listing = Workspace.Store.empty.listing := rfl
  have herror : nested.evaluate numberedContext (.ofWords []) =
      (.error (.invalidGet "7"), .ofWords []) :=
    hreaches.evaluate_eq rfl ((Function.apply_eq_error_iff hstore).2 ⟨hfails, rfl⟩)
  have hiff := h numberedContext .empty nested (.ofWords []) "r1, 'a'" "get" ["md5", "get"] ["trim"]
    hstore rfl rfl rfl (by decide)
  exact hiff.1 ⟨"7", .ofWords [], herror⟩ (by decide)

end Courier.Template
