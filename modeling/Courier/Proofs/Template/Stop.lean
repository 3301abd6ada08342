import Courier.Proofs.Template.Spans
import Courier.Proofs.Template.Splice

/-! Stopping at malformed braces.

A search that stops at malformed braces and one that skips them go the same way up to the first
malformed braces of the text, if there are any (`exists_cut`). The one that stops takes all that
follows as it is, so substitution leaves the text from there on (`suffix_filled`). `scan_stop` puts
the two searches side by side. -/

namespace Courier.Template

/-- The span is that of the first malformed braces in the text from the byte `low` on. -/
def FirstMalformed (cs : List Char) (low : Nat) (s : Span) : Prop :=
  ∃ spans, Grammar cs low spans ∧ spans.find? (fun t => ¬HasOneGroup t.inner) = some s

namespace FirstMalformed
variable {cs done rest gap inner after : List Char} {low : Nat} {s t : Span}

theorem unique (h : FirstMalformed cs low s) (h' : FirstMalformed cs low t) : t = s := by
  obtain ⟨spans, hspans, hfind⟩ := h
  obtain ⟨others, hothers, hfind'⟩ := h'
  rw [hspans.unique hothers, hfind] at hfind'
  exact (Option.some.inj hfind').symm

theorem start_lt_stop (h : FirstMalformed cs low s) : s.start < s.stop := by
  obtain ⟨spans, hspans, hfind⟩ := h
  exact hspans.start_lt_stop (List.mem_of_find?_eq_some hfind)

/-- Braces that hold a call are passed over. -/
theorem behind_call (hbraced : braced? rest = some (gap, inner, after)) (hone : HasOneGroup inner)
    (h : FirstMalformed (done ++ gap ++ withBraces inner ++ after)
      (Utf8.size (done ++ gap ++ withBraces inner)) s) :
    FirstMalformed (done ++ rest) (Utf8.size done) s := by
  obtain ⟨spans, hspans, hfind⟩ := h
  refine ⟨_, .cons hbraced hspans, ?_⟩
  rw [List.find?_cons_of_neg (by simpa using hone), hfind]

/-- Braces that hold none are the first malformed ones. -/
theorem of_braced? (collection : String) (hbraced : braced? rest = some (gap, inner, after))
    (hnone : ¬HasOneGroup inner) :
    FirstMalformed (done ++ rest) (Utf8.size done)
      ⟨Utf8.size done + Utf8.size gap,
        Utf8.size done + Utf8.size gap + Utf8.size (withBraces inner), inner⟩ := by
  obtain ⟨spans, hspans, -⟩ := exists_spans collection (done ++ gap ++ withBraces inner) after
  exact ⟨_, .cons hbraced hspans, List.find?_cons_of_pos (by simpa using hnone)⟩

end FirstMalformed

/-! ### Where the searches part -/

section
variable {collection : String} {offset : Nat} {cs gap inner after back : List Char} {s : Span}
  {front : List Part}

/-- At the span, with `front` before it, one search of a text stops and another one goes on. -/
structure PartAt (collection : String) (offset : Nat) (cs : List Char) (s : Span)
    (front : List Part) (back : List Char) : Prop where
  stop : partsFrom .stop collection offset cs = front ++ [.malformed s.inner, .literal back]
  skip : partsFrom .skip collection offset cs =
    front ++ .malformed s.inner :: partsFrom .skip collection s.stop back
  formed : front.filterMap Part.malformed? = []
  start : s.start = offset + Utf8.size (sources front)

theorem PartAt.behind_call {chain : List String} {argument : Argument}
    (h : braced? cs = some (gap, inner, after)) (hp : parseInner? inner = some (chain, argument))
    (hpart : PartAt collection (offset + Utf8.size gap + Utf8.size (withBraces inner)) after s
      front back) :
    ∃ front, PartAt collection offset cs s front back := by
  let call : Call :=
    { collection
      text := String.ofList (withBraces inner)
      start := offset + Utf8.size gap
      stop := offset + Utf8.size gap + Utf8.size (withBraces inner)
      chain
      argument }
  refine ⟨.literal gap :: .call call :: front, ?_, ?_, hpart.formed, ?_⟩
  · rw [partsFrom_of_call h hp, hpart.stop]
    rfl
  · rw [partsFrom_of_call h hp, hpart.skip]
    rfl
  · rw [hpart.start, sources_cons, sources_cons, Utf8.size_append, Utf8.size_append, Part.source,
      Part.source, String.toList_ofList]
    omega

theorem partAt_of_braced? (h : braced? cs = some (gap, inner, after))
    (hp : parseInner? inner = none) :
    PartAt collection offset cs
      ⟨offset + Utf8.size gap, offset + Utf8.size gap + Utf8.size (withBraces inner), inner⟩
      [.literal gap] after := by
  refine ⟨partsFrom_of_malformed h hp, partsFrom_of_malformed h hp, rfl, ?_⟩
  rw [sources_cons, Part.source, show sources [] = [] from rfl, List.append_nil]

/-- Two searches of one text agree if no braces in it are malformed, and part at the first
malformed ones otherwise. -/
theorem exists_cut (collection : String) (done rest : List Char) :
    (partsFrom .stop collection (Utf8.size done) rest =
        partsFrom .skip collection (Utf8.size done) rest ∧
      (partsFrom .skip collection (Utf8.size done) rest).filterMap Part.malformed? = []) ∨
    ∃ s front back, FirstMalformed (done ++ rest) (Utf8.size done) s ∧
      PartAt collection (Utf8.size done) rest s front back := by
  generalize hoffset : Utf8.size done = offset
  generalize hmode : Mode.skip = mode
  fun_induction partsFrom mode collection offset rest generalizing done with
  | case1 offset rest h => exact .inl ⟨partsFrom_of_none h, rfl⟩
  | case2 offset rest gap inner after h _ start stop chain argument hp text ih =>
    subst hoffset hmode
    have hstop : Utf8.size (done ++ gap ++ withBraces inner) = stop := by
      rw [Utf8.size_append, Utf8.size_append]
    have hone : HasOneGroup inner := isSome_parseInner?_iff.1 (by rw [hp, Option.isSome_some])
    obtain ⟨hagree, hformed⟩ | ⟨s, front, back, hfirst, hpart⟩ := ih _ hstop
    · refine .inl ⟨?_, hformed⟩
      rw [partsFrom_of_call h hp, hagree]
    · obtain ⟨front, hpart⟩ := hpart.behind_call h hp
      exact .inr ⟨s, front, back, .behind_call h hone (hstop ▸ hfirst), hpart⟩
  | case3 offset rest gap inner after h _ start stop hp ih =>
    subst hoffset hmode
    have hnone : ¬HasOneGroup inner := fun hone => by
      have := isSome_parseInner?_iff.2 hone
      rw [hp] at this
      cases this
    exact .inr ⟨_, _, _, .of_braced? collection h hnone, partAt_of_braced? h hp⟩

namespace PartAt

/-- What the search that stops has found is what the other one has found before the span. -/
theorem calls_eq (h : PartAt collection offset cs s front back) (hspan : s.start < s.stop) :
    (partsFrom .stop collection offset cs).filterMap Part.call? =
      ((partsFrom .skip collection offset cs).filterMap Part.call?).filter (·.stop ≤ s.start) := by
  have hplaced := placed_partsFrom .skip collection offset cs
  rw [h.skip] at hplaced
  have hbefore := (inOrder_of_placed hplaced.append_left).bounds.2
  have hbehind := (inOrder_of_placed (placed_partsFrom .skip collection s.stop back)).bounds.2
  have hkept : (front.filterMap Part.call?).filter (·.stop ≤ s.start) =
      front.filterMap Part.call? := by
    rw [List.filter_eq_self]
    intro call hcall
    have := hbefore call hcall
    rw [decide_eq_true_eq, h.start]
    omega
  have hleft : ((partsFrom .skip collection s.stop back).filterMap Part.call?).filter
      (·.stop ≤ s.start) = [] := by
    rw [List.filter_eq_nil_iff]
    intro call hcall
    have := hbehind call hcall
    rw [decide_eq_true_eq]
    omega
  have hspanned : (Part.malformed s.inner :: partsFrom .skip collection s.stop back).filterMap
      Part.call? = (partsFrom .skip collection s.stop back).filterMap Part.call? := rfl
  rw [h.stop, h.skip, List.filterMap_append, List.filterMap_append, List.filter_append, hkept,
    hspanned, hleft]
  rfl

/-- The text from the span on. -/
theorem text_eq (h : PartAt collection offset cs s front back) :
    cs = sources front ++ sources [.malformed s.inner, .literal back] := by
  rw [← sources_append, ← h.stop, sources_partsFrom]

end PartAt

end

/-! ### What substitution leaves -/

/-- Values in the place of calls leave the text from the first malformed braces on. -/
theorem suffix_filled {collection text : String} {s : Span} {front : List Part} {back : List Char}
    (h : PartAt collection 0 text.toList s front back) (vs : List Value) :
    (Utf8.bytes text).drop s.start <:+ Utf8.bytes (filled .stop collection text vs) := by
  have htexts : [Part.malformed s.inner, .literal back].filterMap Part.call? = [] := rfl
  have hstart : s.start = (Utf8.encode (sources front)).length := by
    rw [h.start, Utf8.length_encode, Nat.zero_add]
  have hdrop : (Utf8.bytes text).drop s.start =
      Utf8.encode (sources [.malformed s.inner, .literal back]) := by
    rw [show Utf8.bytes text = Utf8.encode text.toList from rfl, h.text_eq, Utf8.encode_append,
      hstart, List.drop_left]
  rw [hdrop, filled, Utf8.bytes_ofList, parts, h.stop, withValues_append_of_text front htexts,
    Utf8.encode_append]
  exact List.suffix_append _ _

/-- Substitution fills in values, as far as there are any; a failure may come without the text. -/
theorem substituteWith_cases {σ : Type} (evaluate : Evaluator σ) (settings : Settings)
    (collection text : String) (s : σ) :
    ∃ vs s', substituteWith evaluate settings collection text s =
        (.ok (filled settings.scanMode collection text vs), s') ∨
      ∃ e soFar, substituteWith evaluate settings collection text s = (.error ⟨e, soFar⟩, s') ∧
        ∀ t, soFar = some t → t = filled settings.scanMode collection text vs := by
  obtain ⟨vs, s', h⟩ | ⟨before, call, after, vs, s₁, e, s', hcalls, h, he⟩ :=
    evaluates_or_fails evaluate (scan settings.scanMode collection text).calls s
  · exact ⟨vs, s', .inl (substituteWith_of_evaluates h)⟩
  · refine ⟨vs, s', .inr ⟨e, _, substituteWith_of_failure hcalls h he, fun t ht => ?_⟩⟩
    split at ht
    · cases ht
    · exact (Option.some.inj ht).symm

/-- **Stopping at malformed braces.** Either no braces of the text are malformed, and a search that
stops at such braces finds what one finds that skips them. Or there are first ones, of those that
the search that skips them lists: then the search that stops lists no others, and finds the calls
before them. In the settings for this search, what substitution makes of the text ends with the text
from there on as it was, and so does the text that a failure comes with. -/
theorem scan_stop (collection text : String) :
    let skipping := scan .skip collection text
    let stopping := scan .stop collection text
    (skipping.malformed = [] ∧ stopping = skipping) ∨
      ∃ s, FirstMalformed text.toList 0 s ∧ (∀ t, FirstMalformed text.toList 0 t → t = s) ∧
        skipping.malformed.head? = some s.text ∧ stopping.malformed = [s.text] ∧
        stopping.calls = skipping.calls.filter (·.stop ≤ s.start) ∧
        ∀ (c : Context) (source : Random.Source), c.settings.scanMode = .stop →
          (∀ result left, substitute c collection text source = (.ok result, left) →
            (Utf8.bytes text).drop s.start <:+ Utf8.bytes result) ∧
          ∀ failure left soFar, substitute c collection text source = (.error failure, left) →
            failure.soFar = some soFar → (Utf8.bytes text).drop s.start <:+ Utf8.bytes soFar := by
  intro skipping stopping
  obtain ⟨hagree, hformed⟩ | ⟨s, front, back, hfirst, hpart⟩ := exists_cut collection [] text.toList
  · have hparts : parts .stop collection text = parts .skip collection text := hagree
    exact .inl ⟨hformed, by simp only [stopping, skipping, scan, hparts]⟩
  · have hpart : PartAt collection 0 text.toList s front back := hpart
    refine .inr ⟨s, hfirst, fun t => hfirst.unique, ?_, ?_, hpart.calls_eq hfirst.start_lt_stop, ?_⟩
    · show ((partsFrom .skip collection 0 text.toList).filterMap Part.malformed?).head? = _
      rw [hpart.skip, List.filterMap_append, hpart.formed]
      rfl
    · show (partsFrom .stop collection 0 text.toList).filterMap Part.malformed? = _
      rw [hpart.stop, List.filterMap_append, hpart.formed]
      rfl
    · intro c source hmode
      obtain ⟨vs, s', hrun | ⟨e, t, hrun, hfilled⟩⟩ :=
        substituteWith_cases (Call.evaluate c) c.settings collection text source
      · refine ⟨fun result left hresult => ?_, fun failure left soFar hfailure => ?_⟩
        · cases hrun.symm.trans hresult
          rw [hmode]
          exact suffix_filled hpart vs
        · cases hrun.symm.trans hfailure
      · refine ⟨fun result left hresult => ?_, fun failure left soFar hfailure hsoFar => ?_⟩
        · cases hrun.symm.trans hresult
        · cases hrun.symm.trans hfailure
          rw [hfilled soFar hsoFar, hmode]
          exact suffix_filled hpart vs

/-- The call before malformed braces gets its value, and the one behind them stays. -/
example : scan .stop "c1"
      "\x7b\x7bmd5(x)\x7d\x7d\x7b\x7bno\x7d\x7d\x7b\x7bmd5(x)\x7d\x7d" =
    ⟨[⟨"c1", "\x7b\x7bmd5(x)\x7d\x7d", 0, 10, ["md5"], .single "x"⟩], ["\x7b\x7bno\x7d\x7d"]⟩ := by
  cbv

end Courier.Template
