import Courier.Template.Substitute
import Courier.Proofs.Template.Braces

/-! Where the parts of a text stand in it.

Cutting a text into parts loses nothing: their sources, one behind the other, are the text
(`sources_partsFrom`), and each call starts and stops at the bytes that it names
(`placed_partsFrom`). -/

namespace Courier.Template

/-! ### Cutting a text into parts -/

section
variable {mode : Mode} {collection : String} {offset : Nat} {cs before inner after : List Char}

theorem partsFrom_of_none (h : braced? cs = none) :
    partsFrom mode collection offset cs = [.literal cs] := by
  rw [partsFrom]
  split
  · rfl
  · next h' => rw [h] at h'; cases h'

theorem partsFrom_of_call {chain : List String} {argument : Argument}
    (h : braced? cs = some (before, inner, after))
    (hp : parseInner? inner = some (chain, argument)) :
    partsFrom mode collection offset cs =
      .literal before ::
        .call {
          collection
          text := String.ofList (withBraces inner)
          start := offset + Utf8.size before
          stop := offset + Utf8.size before + Utf8.size (withBraces inner)
          chain
          argument } ::
        partsFrom mode collection (offset + Utf8.size before + Utf8.size (withBraces inner))
          after := by
  rw [partsFrom]
  split
  · next h' => rw [h] at h'; cases h'
  · next h' =>
    rw [h] at h'
    cases h'
    simp only [hp]

theorem partsFrom_of_malformed (h : braced? cs = some (before, inner, after))
    (hp : parseInner? inner = none) :
    partsFrom mode collection offset cs =
      .literal before :: .malformed inner ::
        match mode with
        | .stop => [.literal after]
        | .skip =>
          partsFrom .skip collection (offset + Utf8.size before + Utf8.size (withBraces inner))
            after := by
  rw [partsFrom]
  split
  · next h' => rw [h] at h'; cases h'
  · next h' =>
    rw [h] at h'
    cases h'
    cases mode <;> simp only [hp]

end

/-! ### Sources -/

@[simp] theorem sources_cons (p : Part) (ps : List Part) :
    sources (p :: ps) = p.source ++ sources ps := rfl

theorem sources_append (ps qs : List Part) : sources (ps ++ qs) = sources ps ++ sources qs :=
  List.flatMap_append

theorem sources_partsFrom (mode : Mode) (collection : String) (offset : Nat) (cs : List Char) :
    sources (partsFrom mode collection offset cs) = cs := by
  fun_induction partsFrom mode collection offset cs with
  | case1 offset cs h => exact List.append_nil cs
  | case2 offset cs before inner after h _ start stop chain argument hp text ih =>
    rw [sources_cons, sources_cons, ih, Part.source, Part.source, String.toList_ofList,
      append_of_braced? h, List.append_assoc]
  | case3 offset cs before inner after h _ start stop hp ih =>
    rw [sources_cons, sources_cons, Part.source, Part.source, append_of_braced? h,
      List.append_assoc]
    cases mode with
    | stop => rw [sources_cons, show sources [] = [] from rfl, List.append_nil, Part.source]
    | skip => rw [ih]

/-! ### Places -/

theorem Part.eq_of_call? {p : Part} {call : Call} (h : p.call? = some call) : p = .call call := by
  cases p with
  | call other => exact congrArg Part.call (Option.some.inj h)
  | literal text => cases h
  | malformed inner => cases h

/-- Every call of the parts, the first of which stands at the byte `offset`, starts and stops
where it says. -/
def Placed (offset : Nat) : List Part → Prop
  | [] => True
  | p :: ps =>
    (∀ call, p = .call call → call.start = offset ∧ call.stop = offset + Utf8.size p.source) ∧
      Placed (offset + Utf8.size p.source) ps

theorem Placed.append_left {offset : Nat} {ps qs : List Part} (h : Placed offset (ps ++ qs)) :
    Placed offset ps := by
  induction ps generalizing offset with
  | nil => trivial
  | cons p ps ih => exact ⟨h.1, ih h.2⟩

theorem placed_partsFrom (mode : Mode) (collection : String) (offset : Nat) (cs : List Char) :
    Placed offset (partsFrom mode collection offset cs) := by
  fun_induction partsFrom mode collection offset cs with
  | case1 offset cs h => exact ⟨nofun, trivial⟩
  | case2 offset cs before inner after h _ start stop chain argument hp text ih =>
    have hsize : Utf8.size text.toList = Utf8.size (withBraces inner) := by
      rw [String.toList_ofList]
    refine ⟨nofun, ?_, ?_⟩
    · rintro call ⟨⟩
      exact ⟨rfl, congrArg (start + ·) hsize.symm⟩
    · rw [show offset + Utf8.size (Part.literal before).source = start from rfl, Part.source, hsize]
      exact ih
  | case3 offset cs before inner after h _ start stop hp ih =>
    refine ⟨nofun, nofun, ?_⟩
    cases mode
    · exact ⟨nofun, trivial⟩
    · exact ih

end Courier.Template
