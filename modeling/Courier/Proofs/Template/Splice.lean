import Courier.Proofs.Template.Parts

/-! What substitution makes of a text.

The calls of a text are evaluated from left to right, each once, until one of them fails.
Their values take the place of their bytes and nothing else in the text moves: that is
`splice`, which works on the bytes of the text and on the places that the calls name, and
knows nothing of parts. `substitute_splices` says that substitution is evaluation followed
by a splice, and what a failure leaves.

A source of random words cannot show how often a call has been evaluated, so the theorem
also speaks of the evaluator that writes down every call it is asked for (`logged`). -/

namespace Courier.Template

/-! ### Evaluation from left to right -/

section
variable {σ : Type} {evaluate : Evaluator σ}

/-- The calls have these values, each evaluated in the state that the one before it leaves:
the first one in the first state, and the last one leaves the last state. -/
inductive Evaluates (evaluate : Evaluator σ) : List Call → σ → List Value → σ → Prop
  | nil {s} : Evaluates evaluate [] s [] s
  | cons {call calls v vs s s₁ s₂} : evaluate call s = (.ok v, s₁) →
      Evaluates evaluate calls s₁ vs s₂ → Evaluates evaluate (call :: calls) s (v :: vs) s₂

theorem Evaluates.length_eq {calls : List Call} {s s' : σ} {vs : List Value}
    (h : Evaluates evaluate calls s vs s') : vs.length = calls.length := by
  induction h with
  | nil => rfl
  | cons _ _ ih => rw [List.length_cons, List.length_cons, ih]

/-- Either all calls have values, or there is a first one that fails. -/
theorem evaluates_or_fails (evaluate : Evaluator σ) (calls : List Call) (s : σ) :
    (∃ vs s', Evaluates evaluate calls s vs s') ∨
      ∃ before call after vs s₁ e s₂, calls = before ++ call :: after ∧
        Evaluates evaluate before s vs s₁ ∧ evaluate call s₁ = (.error e, s₂) := by
  induction calls generalizing s with
  | nil => exact .inl ⟨[], s, .nil⟩
  | cons call calls ih =>
    rcases hr : evaluate call s with ⟨e | v, s₁⟩
    · exact .inr ⟨[], call, calls, [], s, e, s₁, rfl, .nil, hr⟩
    · obtain ⟨vs, s', h⟩ | ⟨before, call', after, vs, s₂, e, s₃, rfl, h, he⟩ := ih s₁
      · exact .inl ⟨v :: vs, s', .cons hr h⟩
      · exact .inr ⟨call :: before, call', after, v :: vs, s₂, e, s₃, rfl, .cons hr h, he⟩

/-- The evaluator that also writes down the calls it is asked for, in their order. -/
def logged (evaluate : Evaluator σ) : Evaluator (σ × List Call) := fun call (s, log) =>
  let (r, s) := evaluate call s
  (r, (s, log ++ [call]))

theorem Evaluates.logged {calls : List Call} {s s' : σ} {vs : List Value}
    (h : Evaluates evaluate calls s vs s') (log : List Call) :
    Evaluates (logged evaluate) calls (s, log) vs (s', log ++ calls) := by
  induction h generalizing log with
  | nil =>
    rw [List.append_nil]
    exact .nil
  | @cons call calls v vs s s₁ s₂ hr _ ih =>
    have hstep : Template.logged evaluate call (s, log) = (.ok v, (s₁, log ++ [call])) := by
      simp only [Template.logged, hr]
    rw [List.append_cons]
    exact .cons hstep (ih (log ++ [call]))

/-! ### Filling in -/

/-- The text of the parts with values in the place of its calls. The first call without a
value and everything behind it stay as they are. -/
def withValues : List Part → List Value → List Char
  | [], _ => []
  | .call call :: ps, [] => sources (.call call :: ps)
  | .call _ :: ps, v :: vs => v.toText.toList ++ withValues ps vs
  | p :: ps, vs => p.source ++ withValues ps vs

theorem withValues_of_text {p : Part} (h : p.call? = none) (ps : List Part) (vs : List Value) :
    withValues (p :: ps) vs = p.source ++ withValues ps vs := by
  cases p with
  | call call => cases h
  | literal text => cases vs <;> rfl
  | malformed inner => cases vs <;> rfl

/-- Text behind the parts stays behind them. -/
theorem withValues_append_of_text (ps : List Part) {texts : List Part}
    (h : texts.filterMap Part.call? = []) (vs : List Value) :
    withValues (ps ++ texts) vs = withValues ps vs ++ sources texts := by
  have htexts (vs : List Value) : withValues texts vs = sources texts := by
    induction texts with
    | nil => cases vs <;> rfl
    | cons p texts ih =>
      have hp : p.call? = none := List.filterMap_eq_nil_iff.1 h p List.mem_cons_self
      rw [List.filterMap_cons_none hp] at h
      rw [withValues_of_text hp, ih h, sources_cons]
  induction ps generalizing vs with
  | nil => cases vs <;> exact htexts _
  | cons p ps ih =>
    cases hp : p.call? with
    | none =>
      rw [List.cons_append, withValues_of_text hp, withValues_of_text hp, ih, List.append_assoc]
    | some call =>
      obtain rfl := Part.eq_of_call? hp
      cases vs with
      | nil => exact sources_append (.call call :: ps) texts
      | cons v vs => simp only [List.cons_append, withValues, ih, List.append_assoc]

theorem fill_of_evaluates {ps : List Part} {s s' : σ} {vs : List Value}
    (h : Evaluates evaluate (ps.filterMap Part.call?) s vs s') :
    fill evaluate ps s = (.ok (withValues ps vs), s') := by
  induction ps generalizing s vs with
  | nil =>
    cases h
    rfl
  | cons p ps ih =>
    cases p with
    | call call =>
      cases h with
      | cons hr h => simp only [fill, hr, ih h, withValues]
    | literal text => simp only [fill, ih h, withValues]
    | malformed inner => simp only [fill, ih h, withValues]

theorem fill_of_failure {ps : List Part} {before after : List Call} {call : Call} {s s₁ s₂ : σ}
    {vs : List Value} {e : Error} (hcalls : ps.filterMap Part.call? = before ++ call :: after)
    (h : Evaluates evaluate before s vs s₁) (he : evaluate call s₁ = (.error e, s₂)) :
    fill evaluate ps s = (.error (e, withValues ps vs), s₂) := by
  induction ps generalizing s vs before with
  | nil => exact absurd hcalls.symm (List.append_ne_nil_of_right_ne_nil _ (List.cons_ne_nil _ _))
  | cons p ps ih =>
    cases p with
    | call first =>
      have hfirst : first :: ps.filterMap Part.call? = before ++ call :: after := hcalls
      cases h with
      | nil =>
        obtain ⟨rfl, -⟩ := List.cons.inj hfirst
        simp only [fill, he, withValues]
      | cons hr h =>
        obtain ⟨rfl, hrest⟩ := List.cons.inj hfirst
        simp only [fill, hr, ih hrest h, withValues]
    | literal text => simp only [fill, ih hcalls h, withValues]
    | malformed inner => simp only [fill, ih hcalls h, withValues]

/-- A text with values in the place of its calls, as far as they go. -/
def filled (mode : Mode) (collection text : String) (vs : List Value) : String :=
  String.ofList (withValues (parts mode collection text) vs)

theorem substituteWith_of_evaluates {settings : Settings} {collection text : String} {s s' : σ}
    {vs : List Value}
    (h : Evaluates evaluate (scan settings.scanMode collection text).calls s vs s') :
    substituteWith evaluate settings collection text s =
      (.ok (filled settings.scanMode collection text vs), s') := by
  simp only [substituteWith, fill_of_evaluates h, filled]

theorem substituteWith_of_failure {settings : Settings} {collection text : String} {s s₁ s₂ : σ}
    {before after : List Call} {call : Call} {vs : List Value} {e : Error}
    (hcalls : (scan settings.scanMode collection text).calls = before ++ call :: after)
    (h : Evaluates evaluate before s vs s₁) (he : evaluate call s₁ = (.error e, s₂)) :
    substituteWith evaluate settings collection text s =
      (.error ⟨e, if settings.rollbackOnError then none
        else some (filled settings.scanMode collection text vs)⟩, s₂) := by
  simp only [substituteWith, fill_of_failure hcalls h he, filled]

/-- Nothing is evaluated where there are no calls. -/
theorem substituteWith_of_calls_eq_nil {settings : Settings} {collection text : String}
    (h : (scan settings.scanMode collection text).calls = []) (s : σ) :
    substituteWith evaluate settings collection text s = (.ok text, s) := by
  have hrun : Evaluates evaluate (scan settings.scanMode collection text).calls s [] s := h ▸ .nil
  have hsources : withValues (parts settings.scanMode collection text) [] = text.toList := by
    have hvalues := withValues_append_of_text [] h []
    rwa [List.nil_append, withValues, List.nil_append, parts, sources_partsFrom] at hvalues
  rw [substituteWith_of_evaluates hrun, filled, hsources, String.ofList_toList]

/-- Nothing is evaluated but calls of the text, from the first one on. -/
theorem logged_prefix_calls (evaluate : Evaluator σ) (settings : Settings)
    (collection text : String) (s : σ) :
    (substituteWith (logged evaluate) settings collection text (s, [])).2.2 <+:
      (scan settings.scanMode collection text).calls := by
  obtain ⟨vs, s', h⟩ | ⟨before, call, after, vs, s₁, e, s₂, hcalls, h, he⟩ :=
    evaluates_or_fails evaluate (scan settings.scanMode collection text).calls s
  · rw [substituteWith_of_evaluates (h.logged [])]
    exact List.prefix_rfl
  · have hlogged : logged evaluate call (s₁, [] ++ before) =
        (.error e, (s₂, [] ++ before ++ [call])) := by
      simp only [logged, he]
    rw [substituteWith_of_failure hcalls (h.logged []) hlogged, hcalls]
    exact ⟨after, by simp⟩

end

/-! ### Splicing -/

/-- The bytes from `cursor` on, with values in the place of calls: a value stands where the
bytes of its call stood, and all other bytes stay. -/
def splice (bytes : List UInt8) (cursor : Nat) : List (Call × Value) → List UInt8
  | [] => bytes.drop cursor
  | (call, v) :: rest =>
    (bytes.take call.start).drop cursor ++ Utf8.bytes v.toText ++ splice bytes call.stop rest

/-- The calls stand one behind the other, none of them before `low` or beyond `high`. -/
def InOrder (low high : Nat) : List Call → Prop
  | [] => low ≤ high
  | call :: calls => low ≤ call.start ∧ call.start ≤ call.stop ∧ InOrder call.stop high calls

theorem InOrder.mono {low low' high : Nat} {calls : List Call} (h : InOrder low' high calls)
    (hl : low ≤ low') : InOrder low high calls := by
  cases calls with
  | nil => exact Nat.le_trans hl h
  | cons call calls => exact ⟨Nat.le_trans hl h.1, h.2⟩

theorem InOrder.bounds {low high : Nat} {calls : List Call} (h : InOrder low high calls) :
    low ≤ high ∧ ∀ call ∈ calls, low ≤ call.start ∧ call.start ≤ call.stop ∧ call.stop ≤ high := by
  induction calls generalizing low with
  | nil => exact ⟨h, nofun⟩
  | cons first calls ih =>
    obtain ⟨hlow, hspan, hrest⟩ := h
    obtain ⟨hhigh, hcalls⟩ := ih hrest
    refine ⟨by omega, List.forall_mem_cons.2 ⟨⟨hlow, hspan, hhigh⟩, fun call hcall => ?_⟩⟩
    have := hcalls call hcall
    omega

theorem inOrder_of_placed {offset : Nat} {ps : List Part} (h : Placed offset ps) :
    InOrder offset (offset + Utf8.size (sources ps)) (ps.filterMap Part.call?) := by
  induction ps generalizing offset with
  | nil => exact Nat.le_add_right ..
  | cons p ps ih =>
    obtain ⟨hp, hps⟩ := h
    have hrest := ih hps
    rw [Nat.add_assoc, ← Utf8.size_append] at hrest
    cases p with
    | call call =>
      obtain ⟨hstart, hstop⟩ := hp call rfl
      rw [← hstop] at hrest
      exact ⟨Nat.le_of_eq hstart.symm, by omega, hrest⟩
    | literal text => exact hrest.mono (Nat.le_add_right ..)
    | malformed inner => exact hrest.mono (Nat.le_add_right ..)

theorem start_of_inOrder {low high : Nat} {calls : List Call} {vs : List Value}
    (h : InOrder low high calls) (item : Call × Value) (hi : (calls.zip vs).head? = some item) :
    low ≤ item.1.start := by
  cases calls with
  | nil => cases hi
  | cons call calls =>
    cases vs with
    | nil => cases hi
    | cons v vs =>
      cases hi
      exact h.1

/-- Bytes before the first call are passed over as they are. -/
theorem splice_pass {done piece rest : List UInt8} {items : List (Call × Value)}
    (h : ∀ item, items.head? = some item → (done ++ piece).length ≤ item.1.start) :
    splice (done ++ piece ++ rest) done.length items =
      piece ++ splice (done ++ piece ++ rest) (done ++ piece).length items := by
  cases items with
  | nil => rw [splice, splice, List.drop_left, List.append_assoc, List.drop_left]
  | cons item items =>
    have htake : (done ++ piece ++ rest).take item.1.start =
        done ++ piece ++ rest.take (item.1.start - (done ++ piece).length) := by
      rw [List.take_append, List.take_of_length_le (h item rfl)]
    rw [splice, splice, htake, List.drop_left, List.append_assoc done piece, List.drop_left]
    simp only [List.append_assoc]

/-- **Filling in is splicing.** With `done` in front of the parts, the bytes of the filled
parts are those of the text, spliced from where the parts begin. -/
theorem encode_withValues {ps : List Part} (done : List UInt8) (h : Placed done.length ps)
    (vs : List Value) :
    Utf8.encode (withValues ps vs) =
      splice (done ++ Utf8.encode (sources ps)) done.length ((ps.filterMap Part.call?).zip vs) := by
  induction ps generalizing done vs with
  | nil => simp [withValues, splice, sources, Utf8.encode]
  | cons p ps ih =>
    obtain ⟨hp, hps⟩ := h
    rw [← Utf8.length_encode, ← List.length_append] at hps
    have htext : done ++ Utf8.encode (sources (p :: ps)) =
        done ++ Utf8.encode p.source ++ Utf8.encode (sources ps) := by
      rw [sources_cons, Utf8.encode_append, List.append_assoc]
    cases hc : p.call? with
    | none =>
      rw [withValues_of_text hc, Utf8.encode_append, List.filterMap_cons_none hc, htext, ih _ hps]
      exact (splice_pass (start_of_inOrder (inOrder_of_placed hps))).symm
    | some call =>
      obtain rfl := Part.eq_of_call? hc
      obtain ⟨hstart, hstop⟩ := hp call rfl
      rw [List.filterMap_cons_some hc]
      cases vs with
      | nil => rw [List.zip_nil_right, splice, List.drop_left, withValues]
      | cons v vs =>
        have hnext : call.stop = (done ++ Utf8.encode (Part.call call).source).length := by
          rw [hstop, List.length_append, Utf8.length_encode]
        rw [List.zip_cons_cons, splice, hstart, List.take_left, List.drop_length, List.nil_append,
          htext, hnext, ← ih _ hps, withValues, Utf8.encode_append]
        rfl

/-! ### The whole of it -/

/-- The bytes of a text with values in the place of its calls are the text's own, spliced. -/
theorem bytes_filled (mode : Mode) (collection text : String) (vs : List Value) :
    Utf8.bytes (filled mode collection text vs) =
      splice (Utf8.bytes text) 0 ((scan mode collection text).calls.zip vs) := by
  have h := encode_withValues [] (placed_partsFrom mode collection 0 text.toList) vs
  rw [List.nil_append, sources_partsFrom] at h
  rw [filled, Utf8.bytes_ofList, parts, h]
  rfl

theorem inOrder_scan (mode : Mode) (collection text : String) :
    InOrder 0 (Utf8.bytes text).length (scan mode collection text).calls := by
  have h := inOrder_of_placed (placed_partsFrom mode collection 0 text.toList)
  rw [sources_partsFrom, Nat.zero_add, ← Utf8.length_encode] at h
  exact h

/-- **What substitution does.** The calls of the text stand in it one behind the other. Either
all of them have values, and the text is spliced with these; or one of them is the first that
fails, and then its error is the error, and the text spliced with the values before it comes
along unless the settings want nothing then. The calls that are evaluated, in their order, are
all calls in the first case, and those up to the failed one in the second. -/
theorem substitute_splices (c : Context) (collection text : String) (s : Random.Source) :
    let calls := (scan c.settings.scanMode collection text).calls
    let traced := substituteWith (logged (Call.evaluate c)) c.settings collection text (s, [])
    InOrder 0 (Utf8.bytes text).length calls ∧
      ((∃ vs s' result, Evaluates (Call.evaluate c) calls s vs s' ∧
          substitute c collection text s = (.ok result, s') ∧
          Utf8.bytes result = splice (Utf8.bytes text) 0 (calls.zip vs) ∧
          traced = (.ok result, (s', calls))) ∨
        ∃ before call after vs s₁ e s₂ soFar, calls = before ++ call :: after ∧
          Evaluates (Call.evaluate c) before s vs s₁ ∧ call.evaluate c s₁ = (.error e, s₂) ∧
          substitute c collection text s = (.error ⟨e, soFar⟩, s₂) ∧
          (soFar = none ↔ c.settings.rollbackOnError = true) ∧
          (∀ result, soFar = some result →
            Utf8.bytes result = splice (Utf8.bytes text) 0 (before.zip vs)) ∧
          traced = (.error ⟨e, soFar⟩, (s₂, before ++ [call]))) := by
  intro calls traced
  refine ⟨inOrder_scan .., ?_⟩
  obtain ⟨vs, s', h⟩ | ⟨before, call, after, vs, s₁, e, s₂, hcalls, h, he⟩ :=
    evaluates_or_fails (Call.evaluate c) calls s
  · exact .inl ⟨vs, s', _, h, substituteWith_of_evaluates h, bytes_filled ..,
      substituteWith_of_evaluates (h.logged [])⟩
  · have hlogged : logged (Call.evaluate c) call (s₁, [] ++ before) =
        (.error e, (s₂, [] ++ before ++ [call])) := by
      simp only [logged, he]
    refine .inr ⟨before, call, after, vs, s₁, e, s₂, _, hcalls, h, he,
      substituteWith_of_failure hcalls h he, ?_, ?_,
      substituteWith_of_failure hcalls (h.logged []) hlogged⟩
    · cases c.settings.rollbackOnError <;> simp
    · intro result hresult
      have hzip : (before ++ call :: after).zip (vs ++ []) = before.zip vs := by
        rw [List.zip_append h.length_eq.symm, List.zip_nil_right, List.append_nil]
      rw [List.append_nil, ← hcalls] at hzip
      cases hr : c.settings.rollbackOnError with
      | true => simp [hr] at hresult
      | false =>
        rw [hr, if_neg (by decide), Option.some.injEq] at hresult
        rw [← hresult, bytes_filled, ← hzip]

end Courier.Template
