import Mathlib.Data.String.Basic
import Courier.Json.Document

/-! The values of documents.

The members of an object become a map: a list in ascending order of the names, each name once
(`ascending_collect`), and such a list is the map of itself (`collect_of_ascending`). So what a
document means is settled (`settled_of_value?`): written as a document again, a value means itself,
in the room that it had (`value?_ofJson`). -/

namespace Courier.Json

/-! ### Maps -/

section
variable {α : Type}

/-- The members stand in ascending order of their names, each name once. -/
def Ascending (members : List (String × α)) : Prop :=
  members.Pairwise fun m n => m.1 < n.1

theorem mem_of_mem_insert {name : String} {value : α} {sorted : List (String × α)}
    {m : String × α} (h : m ∈ insert name value sorted) : m = (name, value) ∨ m ∈ sorted := by
  induction sorted with
  | nil => exact .inl (List.mem_singleton.1 h)
  | cons first rest ih =>
    obtain ⟨other, v⟩ := first
    unfold insert at h
    split at h
    · exact List.mem_cons.1 h
    · split at h
      · exact (List.mem_cons.1 h).imp_right (List.mem_cons_of_mem _)
      · rcases List.mem_cons.1 h with hfirst | hrest
        · exact .inr (hfirst ▸ List.mem_cons_self)
        · exact (ih hrest).imp_right (List.mem_cons_of_mem _)

theorem ascending_insert (name : String) (value : α) {sorted : List (String × α)}
    (h : Ascending sorted) : Ascending (insert name value sorted) := by
  induction sorted with
  | nil => exact List.pairwise_singleton _ _
  | cons first rest ih =>
    obtain ⟨other, v⟩ := first
    obtain ⟨hfirst, hrest⟩ := List.pairwise_cons.1 h
    unfold insert
    split
    · next hlt =>
      refine List.pairwise_cons.2 ⟨List.forall_mem_cons.2 ⟨hlt, fun m hm => ?_⟩, h⟩
      exact hlt.trans (hfirst m hm)
    · next hle =>
      split
      · next heq => exact List.pairwise_cons.2 ⟨heq ▸ hfirst, hrest⟩
      · next hne =>
        refine List.pairwise_cons.2 ⟨fun m hm => ?_, ih hrest⟩
        rcases mem_of_mem_insert hm with hm | hm
        · exact hm ▸ lt_of_le_of_ne (not_lt.1 hle) (Ne.symm hne)
        · exact hfirst m hm

theorem ascending_collect (members : List (String × α)) : Ascending (collect members) := by
  suffices hrun : ∀ sorted : List (String × α), Ascending sorted →
      Ascending (members.foldl (fun sorted m => insert m.1 m.2 sorted) sorted) from
    hrun [] List.Pairwise.nil
  induction members with
  | nil => exact fun sorted h => h
  | cons m members ih => exact fun sorted h => ih _ (ascending_insert m.1 m.2 h)

theorem mem_of_mem_collect {members : List (String × α)} {m : String × α}
    (h : m ∈ collect members) : m ∈ members := by
  suffices hrun : ∀ sorted : List (String × α),
      m ∈ members.foldl (fun sorted m => insert m.1 m.2 sorted) sorted →
        m ∈ sorted ∨ m ∈ members from
    (hrun [] h).resolve_left List.not_mem_nil
  clear h
  induction members with
  | nil => exact fun sorted h => .inl h
  | cons first members ih =>
    intro sorted h
    rcases ih _ h with h | h
    · rcases mem_of_mem_insert h with h | h
      · exact .inr (h ▸ List.mem_cons_self)
      · exact .inl h
    · exact .inr (List.mem_cons_of_mem _ h)

theorem insert_of_forall_lt {name : String} (value : α) {sorted : List (String × α)}
    (h : ∀ m ∈ sorted, m.1 < name) : insert name value sorted = sorted ++ [(name, value)] := by
  induction sorted with
  | nil => rfl
  | cons first rest ih =>
    obtain ⟨other, v⟩ := first
    obtain ⟨hfirst, hrest⟩ := List.forall_mem_cons.1 h
    rw [insert, if_neg hfirst.not_gt, if_neg hfirst.ne', ih hrest, List.cons_append]

theorem collect_of_ascending {members : List (String × α)} (h : Ascending members) :
    collect members = members := by
  suffices hrun : ∀ sorted : List (String × α), Ascending (sorted ++ members) →
      members.foldl (fun sorted m => insert m.1 m.2 sorted) sorted = sorted ++ members from
    hrun [] h
  clear h
  induction members with
  | nil => exact fun sorted _ => (List.append_nil sorted).symm
  | cons m members ih =>
    intro sorted h
    have hlast : ∀ n ∈ sorted, n.1 < m.1 := fun n hn =>
      (List.pairwise_append.1 h).2.2 n hn m List.mem_cons_self
    rw [List.append_cons] at h
    rw [List.foldl_cons, insert_of_forall_lt m.2 hlast, ih _ h, ← List.append_cons]

end

/-! ### What documents mean -/

namespace Document

theorem exists_of_mem_itemValues? {room : Nat} {items : List Document} {values : List Json}
    (h : itemValues? room items = some values) {j : Json} (hj : j ∈ values) :
    ∃ d ∈ items, d.value? room = some j := by
  induction items generalizing values with
  | nil =>
    cases h
    cases hj
  | cons item items ih =>
    simp only [itemValues?, Option.bind_eq_bind, Option.bind_eq_some_iff, Option.pure_def,
      Option.some.injEq] at h
    obtain ⟨value, hvalue, rest, hrest, rfl⟩ := h
    rcases List.mem_cons.1 hj with hj | hj
    · exact ⟨item, List.mem_cons_self, hj ▸ hvalue⟩
    · obtain ⟨d, hd, hmeans⟩ := ih hrest hj
      exact ⟨d, List.mem_cons_of_mem _ hd, hmeans⟩

theorem exists_of_mem_memberValues? {room : Nat} {members : List (Option String × Document)}
    {values : List (String × Json)} (h : memberValues? room members = some values)
    {m : String × Json} (hm : m ∈ values) :
    ∃ d ∈ members.map Prod.snd, d.value? room = some m.2 := by
  induction members generalizing values with
  | nil =>
    cases h
    cases hm
  | cons member members ih =>
    obtain ⟨name, document⟩ := member
    simp only [memberValues?, Option.bind_eq_bind, Option.bind_eq_some_iff, Option.pure_def,
      Option.some.injEq] at h
    obtain ⟨name, -, value, hvalue, rest, hrest, rfl⟩ := h
    rw [List.map_cons]
    rcases List.mem_cons.1 hm with hm | hm
    · exact ⟨document, List.mem_cons_self, hm ▸ hvalue⟩
    · obtain ⟨d, hd, hmeans⟩ := ih hrest hm
      exact ⟨d, List.mem_cons_of_mem _ hd, hmeans⟩

end Document

/-- A value as reading gives it: objects are maps, and arrays and objects are nested no deeper than
the room for them. -/
inductive Settled : Nat → Json → Prop where
  | null (room : Nat) : Settled room .null
  | bool (room : Nat) (b : Bool) : Settled room (.bool b)
  | number (room : Nat) (n : Number) : Settled room (.number n)
  | string (room : Nat) (s : String) : Settled room (.string s)
  | array {room : Nat} {items : List Json} (h : ∀ item ∈ items, Settled room item) :
    Settled (room + 1) (.array items)
  | object {room : Nat} {members : List (String × Json)} (hnames : Ascending members)
    (h : ∀ m ∈ members, Settled room m.2) : Settled (room + 1) (.object members)

namespace Document

theorem settled_of_value? {room : Nat} {d : Document} {j : Json} (h : d.value? room = some j) :
    Settled room j := by
  induction room using Nat.strongRecOn generalizing d j with
  | ind room ih =>
    cases d with
    | null =>
      cases h
      exact .null room
    | bool b =>
      cases h
      exact .bool room b
    | number n =>
      obtain ⟨n, -, rfl⟩ := Option.map_eq_some_iff.1 h
      exact .number room n
    | string s =>
      obtain ⟨s, -, rfl⟩ := Option.map_eq_some_iff.1 h
      exact .string room s
    | array items =>
      -- Without room there is no array, and in one there is less room.
      cases room with
      | zero => cases h
      | succ room =>
        obtain ⟨values, hvalues, rfl⟩ := Option.map_eq_some_iff.1 h
        refine .array fun item hitem => ?_
        obtain ⟨d, -, hmeans⟩ := exists_of_mem_itemValues? hvalues hitem
        exact ih room (Nat.lt_succ_self room) hmeans
    | object members =>
      cases room with
      | zero => cases h
      | succ room =>
        obtain ⟨values, hvalues, rfl⟩ := Option.map_eq_some_iff.1 h
        refine .object (ascending_collect values) fun m hm => ?_
        obtain ⟨d, -, hmeans⟩ := exists_of_mem_memberValues? hvalues (mem_of_mem_collect hm)
        exact ih room (Nat.lt_succ_self room) hmeans

theorem itemValues?_ofItems {room : Nat} {items : List Json}
    (h : ∀ item ∈ items, (ofJson item).value? room = some item) :
    itemValues? room (ofItems items) = some items := by
  induction items with
  | nil => rfl
  | cons item items ih =>
    obtain ⟨hitem, hitems⟩ := List.forall_mem_cons.1 h
    simp [ofItems, itemValues?, hitem, ih hitems]

theorem memberValues?_ofMemberList {room : Nat} {members : List (String × Json)}
    (h : ∀ m ∈ members, (ofJson m.2).value? room = some m.2) :
    memberValues? room (ofMemberList members) = some members := by
  induction members with
  | nil => rfl
  | cons member members ih =>
    obtain ⟨name, value⟩ := member
    obtain ⟨hvalue, hvalues⟩ := List.forall_mem_cons.1 h
    simp [ofMemberList, memberValues?, hvalue, ih hvalues]

/-- A settled value is what it means as a document. -/
theorem value?_ofJson {room : Nat} {j : Json} (h : Settled room j) :
    (ofJson j).value? room = some j := by
  induction h with
  | null | bool | number | string => simp [ofJson, value?]
  | array _ ih => rw [ofJson, value?, itemValues?_ofItems ih, Option.map_some]
  | object hnames _ ih =>
    rw [ofJson, value?, memberValues?_ofMemberList ih, Option.map_some, ofMembers,
      collect_of_ascending hnames]

end Document

end Courier.Json
