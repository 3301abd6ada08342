import Courier.Proofs.Template.Steady

/-! The fields of a request that substitution works on.

A request is resolved field by field: its address, its body, the values of its query and those of
its headers, whether enabled or not. `resolve_fields` says that this is all that happens, in this
order and on one source of random words, that the first field that fails ends it with its own
failure, and that fields which draw no random words do not depend on one another at all. -/

namespace Courier.Template

/-! ### One after the other -/

section
variable {α β γ ε σ : Type} {run : α → σ → Except ε β × σ}

/-- Running on these has these results, each in the state that the one before it leaves. -/
inductive InTurn (run : α → σ → Except ε β × σ) : List α → σ → List β → σ → Prop
  | nil {s} : InTurn run [] s [] s
  | cons {x xs y ys s s₁ s₂} : run x s = (.ok y, s₁) → InTurn run xs s₁ ys s₂ →
      InTurn run (x :: xs) s (y :: ys) s₂

/-- Running on one of these fails, after running on those before it. -/
def FailsFirst (run : α → σ → Except ε β × σ) (xs : List α) (s : σ) (failure : ε) (s' : σ) : Prop :=
  ∃ before x after ys s₁, xs = before ++ x :: after ∧ InTurn run before s ys s₁ ∧
    run x s₁ = (.error failure, s')

theorem InTurn.append {xs xs' : List α} {ys ys' : List β} {s s₁ s₂ : σ}
    (h : InTurn run xs s ys s₁) (h' : InTurn run xs' s₁ ys' s₂) :
    InTurn run (xs ++ xs') s (ys ++ ys') s₂ := by
  induction h with
  | nil => exact h'
  | cons hrun _ ih => exact .cons hrun (ih h')

theorem InTurn.map {f : γ → α} {zs : List γ} {ys : List β} {s s' : σ}
    (h : InTurn (fun z => run (f z)) zs s ys s') : InTurn run (zs.map f) s ys s' := by
  induction h with
  | nil => exact .nil
  | cons hrun _ ih => exact .cons hrun ih

theorem FailsFirst.append_right {xs : List α} {s s' : σ} {failure : ε}
    (h : FailsFirst run xs s failure s') (xs' : List α) :
    FailsFirst run (xs ++ xs') s failure s' := by
  obtain ⟨before, x, after, ys, s₁, rfl, hbefore, hx⟩ := h
  exact ⟨before, x, after ++ xs', ys, s₁, by simp, hbefore, hx⟩

theorem InTurn.failsFirst {xs xs' : List α} {ys : List β} {s s₁ s' : σ} {failure : ε}
    (h : InTurn run xs s ys s₁) (h' : FailsFirst run xs' s₁ failure s') :
    FailsFirst run (xs ++ xs') s failure s' := by
  obtain ⟨before, x, after, ys', s₂, rfl, hbefore, hx⟩ := h'
  exact ⟨xs ++ before, x, after, ys ++ ys', s₂, by simp, h.append hbefore, hx⟩

end

/-! ### Fields -/

/-- What substitution works on as a whole. -/
inductive Field where
  | text (s : String)
  /-- A body may lose its lines of comments first. -/
  | body (s : String)

namespace Field

def content : Field → String
  | .text s => s
  | .body s => s

def resolve (c : Context) (collection : String) : Field → Run Failure String
  | .text s => substitute c collection s
  | .body s => substituteBody c collection s

/-- The calls in a field. -/
def calls (c : Context) (collection : String) : Field → List Call
  | .text s => (scan c.settings.scanMode collection s).calls
  | .body s => (scan c.settings.scanMode collection (prepareBody c.settings s)).calls

theorem steady_resolve {c : Context} {collection : String} {f : Field}
    (h : ∀ call ∈ f.calls c collection, "random" ∉ call.chain) :
    Steady (f.resolve c collection) := by
  cases f with
  | text s => exact steady_substitute h
  | body s => exact steady_substitute h

end Field

/-- No call of the fields is one of `random`. All calls of a field that is resolved have been
evaluated, and all of the chain of each. -/
def Drawless (c : Context) (collection : String) (fs : List Field) : Prop :=
  ∀ f ∈ fs, ∀ call ∈ f.calls c collection, "random" ∉ call.chain

/-- Each of the fields comes to its content by itself, from every source of random words. -/
def Alone (c : Context) (collection : String) (fs : List Field) (contents : List String) : Prop :=
  ∀ s, List.Forall₂ (fun f content => f.resolve c collection s = (.ok content, s)) fs contents

theorem InTurn.alone {c : Context} {collection : String} {fs : List Field} {contents : List String}
    {s s' : Random.Source} (h : InTurn (Field.resolve c collection) fs s contents s')
    (hcalls : Drawless c collection fs) : Alone c collection fs contents := by
  intro alone
  induction h with
  | nil => exact .nil
  | cons hrun _ ih =>
    obtain ⟨hf, hfs⟩ := List.forall_mem_cons.1 hcalls
    obtain ⟨result, hresult⟩ := Field.steady_resolve hf
    rw [hresult] at hrun
    cases hrun
    exact .cons (hresult alone) (ih hfs)

/-- The one field of a parameter is its value. -/
def ofParameter (p : Http.Parameter) : Field :=
  .text p.value

/-- The fields of a request, in the order in which they are resolved. -/
def fieldsOf (r : Http.Request) : List Field :=
  .text r.uri :: .body r.body :: (r.query.map ofParameter ++ r.headers.map ofParameter)

/-- What substitution leaves of a parameter. -/
def frameOf (p : Http.Parameter) : String × Bool :=
  (p.key, p.enabled)

/-- The second request has the first one's everything, except for the contents of its fields. -/
structure SameFrame (r r' : Http.Request) : Prop where
  method : r'.method = r.method
  contentType : r'.contentType = r.contentType
  auth : r'.auth = r.auth
  query : r'.query.map frameOf = r.query.map frameOf
  headers : r'.headers.map frameOf = r.headers.map frameOf

/-! ### Parameters -/

/-- Parameters are worked on in turn, and only their values change. The first that fails, and those
behind it, stay as they are. -/
theorem substituteParameters_cases (c : Context) (collection : String)
    (params : List Http.Parameter) (s : Random.Source) :
    let run := fun p : Http.Parameter => substitute c collection p.value
    (∃ done s', done.map frameOf = params.map frameOf ∧
      InTurn run params s (done.map (·.value)) s' ∧
      substituteParameters c collection params s = ((done, none), s')) ∨
    ∃ before p after done s₁ failure s', params = before ++ p :: after ∧
      done.map frameOf = before.map frameOf ∧ InTurn run before s (done.map (·.value)) s₁ ∧
      run p s₁ = (.error failure, s') ∧
      substituteParameters c collection params s = ((done ++ p :: after, some failure), s') := by
  intro run
  induction params generalizing s with
  | nil => exact .inl ⟨[], s, rfl, .nil, rfl⟩
  | cons p params ih =>
    rcases hrun : substitute c collection p.value s with ⟨failure | value, s₁⟩
    · refine .inr ⟨[], p, params, [], s, failure, s₁, rfl, rfl, .nil, hrun, ?_⟩
      simp only [substituteParameters, hrun, List.nil_append]
    · obtain ⟨done, s', hframe, h, hparams⟩ |
        ⟨before, q, after, done, s₂, failure, s', rfl, hframe, h, hq, hparams⟩ := ih s₁
      · refine .inl ⟨{ p with value } :: done, s', ?_, .cons hrun h, ?_⟩
        · exact congrArg (frameOf p :: ·) hframe
        · simp only [substituteParameters, hrun, hparams]
      · refine .inr ⟨p :: before, q, after, { p with value } :: done, s₂, failure, s', rfl, ?_,
          .cons hrun h, hq, ?_⟩
        · exact congrArg (frameOf p :: ·) hframe
        · simp only [substituteParameters, hrun, hparams, List.cons_append]

/-! ### The whole request -/

/-- The run resolves the fields in turn. It makes something of their contents, or else fails with
the first field that fails. -/
def Resolves {α : Type} (c : Context) (collection : String) (fs : List Field)
    (run : Run Failure α) (Made : List String → α → Prop) : Prop :=
  ∀ s, (∃ contents made s', InTurn (Field.resolve c collection) fs s contents s' ∧
      Made contents made ∧ run s = (.ok made, s')) ∨
    ∃ failure s', FailsFirst (Field.resolve c collection) fs s failure s' ∧
      run s = (.error failure, s')

section
variable {α β : Type} {c : Context} {collection : String}

theorem resolves_field (f : Field) :
    Resolves c collection [f] (f.resolve c collection) fun contents content =>
      contents = [content] := by
  intro s
  rcases hf : f.resolve c collection s with ⟨failure | content, s'⟩
  · exact .inr ⟨failure, s', ⟨[], f, [], [], s, rfl, .nil, hf⟩, rfl⟩
  · exact .inl ⟨[content], content, s', .cons hf .nil, rfl, rfl⟩

theorem resolves_parameters (params : List Http.Parameter) :
    Resolves c collection (params.map ofParameter) (resolveParameters c collection params)
      fun contents done =>
        done.map frameOf = params.map frameOf ∧ contents = done.map (·.value) := by
  intro s
  obtain ⟨done, s', hframe, h, hparams⟩ |
    ⟨before, p, after, done, s₁, failure, s', rfl, hframe, h, hp, hparams⟩ :=
    substituteParameters_cases c collection params s
  · refine .inl ⟨done.map (·.value), done, s', h.map (f := ofParameter), ⟨hframe, rfl⟩, ?_⟩
    simp only [resolveParameters, hparams]
  · refine .inr ⟨failure, s', ?_, by simp only [resolveParameters, hparams]⟩
    exact ⟨before.map ofParameter, ofParameter p, after.map ofParameter, done.map (·.value), s₁,
      by rw [List.map_append, List.map_cons], h.map (f := ofParameter), hp⟩

theorem Resolves.andThen {fs fs' : List Field} {first : Run Failure α} {second : α → Run Failure β}
    {Made : List String → α → Prop} {Made' : List String → β → Prop}
    (h : Resolves c collection fs first Made)
    (h' : ∀ contents a, Made contents a → Resolves c collection fs' (second a) fun contents' b =>
      Made' (contents ++ contents') b) :
    Resolves c collection (fs ++ fs') (first.andThen second) Made' := by
  intro s
  obtain ⟨contents, a, s₁, hturn, hmade, hfirst⟩ | ⟨failure, s', hfails, hfirst⟩ := h s
  · obtain ⟨contents', b, s₂, hturn', hmade', hsecond⟩ | ⟨failure, s', hfails, hsecond⟩ :=
      h' contents a hmade s₁
    · refine .inl ⟨contents ++ contents', b, s₂, hturn.append hturn', hmade', ?_⟩
      simp only [Run.andThen, hfirst, hsecond]
    · refine .inr ⟨failure, s', hturn.failsFirst hfails, ?_⟩
      simp only [Run.andThen, hfirst, hsecond]
  · refine .inr ⟨failure, s', hfails.append_right fs', ?_⟩
    simp only [Run.andThen, hfirst]

theorem resolves_done {Made : List String → α → Prop} {a : α} (h : Made [] a) :
    Resolves c collection [] (fun s => (.ok a, s)) Made :=
  fun s => .inl ⟨[], a, s, .nil, h, rfl⟩

theorem resolves_resolve (r : Http.Request) :
    Resolves c collection (fieldsOf r) (resolve c collection r) fun contents r' =>
      SameFrame r r' ∧ contents = (fieldsOf r').map Field.content := by
  have hfields : fieldsOf r = [.text r.uri] ++ ([.body r.body] ++
      (r.query.map ofParameter ++ (r.headers.map ofParameter ++ []))) := by
    rw [List.append_nil]
    rfl
  rw [hfields, resolve]
  refine (resolves_field (.text r.uri)).andThen ?_
  rintro _ uri rfl
  refine (resolves_field (.body r.body)).andThen ?_
  rintro _ body rfl
  refine (resolves_parameters r.query).andThen ?_
  rintro _ query ⟨hquery, rfl⟩
  refine (resolves_parameters r.headers).andThen ?_
  rintro _ headers ⟨hheaders, rfl⟩
  refine resolves_done ⟨⟨rfl, rfl, rfl, hquery, hheaders⟩, ?_⟩
  simp [fieldsOf, ofParameter, Field.content, Function.comp_def]

end

/-- **Resolving a request.** Either every field is resolved, one after the other on one source of
random words, and the result is the request with what they come to as its contents and all else as
it was; or one of them is the first that fails, and its failure, with its own partial text, is all
that comes of it. The fields that have been resolved come to the same by themselves, whatever
source they are given, if none of their calls is one of `random`. -/
theorem resolve_fields (c : Context) (collection : String) (r : Http.Request)
    (s : Random.Source) :
    (∃ r' s', resolve c collection r s = (.ok r', s') ∧ SameFrame r r' ∧
        InTurn (Field.resolve c collection) (fieldsOf r) s ((fieldsOf r').map Field.content) s' ∧
        (Drawless c collection (fieldsOf r) →
          Alone c collection (fieldsOf r) ((fieldsOf r').map Field.content))) ∨
      ∃ before f after contents s₁ failure s', fieldsOf r = before ++ f :: after ∧
        InTurn (Field.resolve c collection) before s contents s₁ ∧
        f.resolve c collection s₁ = (.error failure, s') ∧
        resolve c collection r s = (.error failure, s') ∧
        (Drawless c collection before → Alone c collection before contents) := by
  obtain ⟨_, r', s', hturn, ⟨hframe, rfl⟩, hresolve⟩ | ⟨failure, s', hfails, hresolve⟩ :=
    resolves_resolve r s
  · exact .inl ⟨r', s', hresolve, hframe, hturn, fun h => hturn.alone h⟩
  · obtain ⟨before, f, after, contents, s₁, hfields, hturn, hf⟩ := hfails
    exact .inr ⟨before, f, after, contents, s₁, failure, s', hfields, hturn, hf, hresolve,
      fun h => hturn.alone h⟩

end Courier.Template
