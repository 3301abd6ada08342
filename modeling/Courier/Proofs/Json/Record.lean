import Mathlib.Data.List.Forall2
import Mathlib.Data.List.Nodup
import Courier.Json.Record
import Courier.Proofs.Json.Printed

/-! Records and lists read back.

Members of different names stay what they are when they make a map, but for their order
(`collect_perm`). So the fields of a record are found under their names, in whatever order they are
written (`fields?_of_sameMembers`), and the items of a list one by one (`list?_of_forall₂`). -/

namespace Courier.Json

/-! ### Members in any order -/

section
variable {α : Type}

theorem insert_perm {name : String} (value : α) {sorted : List (String × α)}
    (h : name ∉ sorted.map Prod.fst) :
    (insert name value sorted).Perm ((name, value) :: sorted) := by
  induction sorted with
  | nil => exact .refl _
  | cons member rest ih =>
    obtain ⟨other, v⟩ := member
    rw [List.map_cons, List.mem_cons, not_or] at h
    unfold insert
    split
    · exact .refl _
    · rw [if_neg h.1]
      exact ((ih h.2).cons _).trans (.swap ..)

theorem collect_perm {members : List (String × α)} (h : (members.map Prod.fst).Nodup) :
    (collect members).Perm members := by
  suffices hrun : ∀ sorted : List (String × α), ((sorted ++ members).map Prod.fst).Nodup →
      (members.foldl (fun sorted m => insert m.1 m.2 sorted) sorted).Perm (sorted ++ members) from
    hrun [] h
  clear h
  induction members with
  | nil => simp
  | cons member members ih =>
    intro sorted h
    have hnew : member.1 ∉ sorted.map Prod.fst := by
      rw [List.map_append, List.map_cons, List.nodup_middle, List.nodup_cons, List.mem_append,
        not_or] at h
      exact h.1.1
    have hmoved : (insert member.1 member.2 sorted ++ members).Perm (sorted ++ member :: members) :=
      ((insert_perm member.2 hnew).append_right members).trans List.perm_middle.symm
    exact (ih _ ((hmoved.map Prod.fst).nodup_iff.2 h)).trans hmoved

end

/-- The same object, its members perhaps in another order. -/
inductive SameMembers : Json → Json → Prop where
  | object {members members' : List (String × Json)} (h : members.Perm members') :
    SameMembers (.object members) (.object members')

theorem sameMembers_ofMembers (members : List (String × Json)) :
    SameMembers (.ofMembers members) (.ofMembers members) :=
  .object (.refl _)

section
variable {fields : List (String × Json)} {j : Json} (hnodup : (fields.map Prod.fst).Nodup)
  (h : SameMembers (.ofMembers fields) j)
include hnodup h

theorem exists_perm_of_sameMembers : ∃ members, j = .object members ∧ members.Perm fields := by
  cases h with
  | object hperm => exact ⟨_, rfl, hperm.symm.trans (collect_perm hnodup)⟩

theorem exact_of_sameMembers (hfields : ∀ m ∈ fields, Exact m.2) : Exact j := by
  obtain ⟨members, rfl, hperm⟩ := exists_perm_of_sameMembers hnodup h
  exact .object fun m hm => hfields m (hperm.mem_iff.1 hm)

end

theorem exact_array_of_forall₂ {α : Type} {xs : List α} {items : List Json}
    (h : List.Forall₂ (fun _ item => Exact item) xs items) : Exact (.array items) := by
  refine .array ?_
  induction h with
  | nil => nofun
  | cons hitem _ ih => exact List.forall_mem_cons.2 ⟨hitem, ih⟩

/-! ### Reading -/

namespace Document

theorem mapM_eq_some {α β : Type} {f : α → Option β} {xs : List α} {ys : List β}
    (h : List.Forall₂ (fun x y => f x = some y) xs ys) : xs.mapM f = some ys := by
  induction h with
  | nil => rfl
  | cons hhead _ ih => simp [hhead, ih]

theorem ofItems_eq_map (items : List Json) : ofItems items = items.map ofJson := by
  induction items with
  | nil => rfl
  | cons item items ih => rw [ofItems, ih, List.map_cons]

theorem ofMemberList_eq_map (members : List (String × Json)) :
    ofMemberList members = members.map fun m => (some m.1, ofJson m.2) := by
  induction members with
  | nil => rfl
  | cons member members ih => rw [ofMemberList, ih, List.map_cons]

theorem filter_eq_singleton {fields : List (String × Json)} (hnodup : (fields.map Prod.fst).Nodup)
    {members : List (String × Json)} (hperm : members.Perm fields) {m : String × Json}
    (hm : m ∈ fields) : members.filter (·.1 = m.1) = [m] := by
  obtain ⟨front, back, rfl⟩ := List.append_of_mem hm
  rw [List.map_append, List.map_cons, List.nodup_middle, List.nodup_cons, List.mem_append,
    not_or] at hnodup
  have hnone {others : List (String × Json)} (hothers : m.1 ∉ others.map Prod.fst) :
      others.filter (·.1 = m.1) = [] := by
    rw [List.filter_eq_nil_iff]
    exact fun x hx heq => hothers (of_decide_eq_true heq ▸ List.mem_map_of_mem hx)
  have hfound := hperm.filter (·.1 = m.1)
  rw [List.filter_append, hnone hnodup.1.1, List.filter_cons_of_pos (by simp),
    hnone hnodup.1.2] at hfound
  exact List.perm_singleton.1 hfound

/-- The fields of a record are found under their names. -/
theorem fields?_of_sameMembers {fields : List (String × Json)} {j : Json}
    (hnodup : (fields.map Prod.fst).Nodup) (h : SameMembers (.ofMembers fields) j) :
    fields? (fields.map Prod.fst) (ofJson j) = some (fields.map fun m => some (ofJson m.2)) := by
  obtain ⟨members, rfl, hperm⟩ := exists_perm_of_sameMembers hnodup h
  rw [ofJson, ofMemberList_eq_map, fields?, if_neg (by simp)]
  apply mapM_eq_some
  rw [List.forall₂_map_left_iff, List.forall₂_map_right_iff, List.forall₂_same]
  intro m hm
  have hfound : (members.map fun m => (some m.1, ofJson m.2)).filter (·.1 = some m.1) =
      [(some m.1, ofJson m.2)] := by
    rw [List.filter_map]
    simp [Function.comp_def, filter_eq_singleton hnodup hperm hm]
  rw [hfound]

@[simp]
theorem required_some {α : Type} (read? : Document → Option α) (d : Document) :
    required read? (some d) = read? d :=
  rfl

@[simp]
theorem optional_some {α : Type} (read? : Document → Option α) (default : α) (d : Document) :
    optional read? default (some d) = read? d :=
  rfl

@[simp]
theorem string?_ofJson (s : String) : string? (ofJson (.string s)) = some s :=
  rfl

/-- The items of a list are read one by one. -/
theorem list?_of_forall₂ {α : Type} {read? : Document → Option α} {xs : List α} {items : List Json}
    (h : List.Forall₂ (fun x item => read? (ofJson item) = some x) xs items) :
    list? read? (ofJson (.array items)) = some xs := by
  rw [ofJson, ofItems_eq_map, list?]
  apply mapM_eq_some
  rw [List.forall₂_map_left_iff]
  exact h.flip

end Document

end Courier.Json
