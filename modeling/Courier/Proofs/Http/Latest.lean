import Mathlib.Data.List.Dedup
import Mathlib.Data.List.DropRight
import Courier.Http.Latest

/-! The latest responses are those of the ids that have been updated last.

A store is used through handles, which share its queue and its map. What it holds after any
run of operations is told by the responses that have been added since it was last cleared, and
by nothing else (`Recent`): the queue holds the last of their distinct ids, as many as the limit
allows, and the map holds the last response of each. `run_recent` follows a run step by step,
and `run_latest` reads off it what every operation answers. -/

namespace Courier.Http.Latest

/-! ### Runs -/

/-- A handle on a store: the one it was made with, or a clone of another one. -/
inductive Handle where
  | first
  | clone (h : Handle)

/-- The limit that a handle carries, on a store made with the limit `given`. -/
def Handle.limit (given : Nat) : Handle → Nat
  | .first => (empty given).limit
  | .clone h => h.limit given

/-- The store as a handle shows it: queue and map are shared, the limit is the handle's own. -/
def Handle.view (given : Nat) (h : Handle) (l : Latest) : Latest :=
  { l with limit := h.limit given }

inductive Op where
  | add (r : Response)
  | clear
  | get (id : String)

/-- An operation through a handle. -/
def perform (given : Nat) (l : Latest) (step : Handle × Op) : Latest :=
  match step.2 with
  | .add r => (step.1.view given l).add r
  | .clear => (step.1.view given l).clear
  | .get _ => l

/-- A new store after a run of operations. -/
def run (given : Nat) (steps : List (Handle × Op)) : Latest :=
  steps.foldl (perform given) (empty given)

/-- What a step makes of the responses that have been added since the last clearing. -/
def note (adds : List Response) (step : Handle × Op) : List Response :=
  match step.2 with
  | .add r => adds ++ [r]
  | .clear => []
  | .get _ => adds

/-- The responses that a run has added since it last cleared the store, in their order. -/
def sinceClear (steps : List (Handle × Op)) : List Response :=
  steps.foldl note []

theorem Handle.limit_eq (given : Nat) (h : Handle) : h.limit given = max given 1 := by
  induction h with
  | first => rfl
  | clone h ih => exact ih

/-! ### The last of some ids -/

section
variable {α : Type}

theorem length_rtake (ids : List α) (n : Nat) : (ids.rtake n).length = min n ids.length := by
  rw [List.rtake, List.length_drop]
  omega

/-- What stands before enough others is not among the last `n`. -/
theorem rtake_append {a b : List α} {n : Nat} (h : n ≤ b.length) : (a ++ b).rtake n = b.rtake n := by
  have hdrop : (a ++ b).length - n = a.length + (b.length - n) := by
    rw [List.length_append]
    omega
  rw [List.rtake, List.rtake, hdrop, List.drop_length_add_append]

/-- An id is among the last `n` if fewer than `n` others stand behind it. -/
theorem mem_rtake_iff {before after : List α} {a : α} (h : (before ++ a :: after).Nodup) (n : Nat) :
    a ∈ (before ++ a :: after).rtake n ↔ after.length < n := by
  have ha : a ∉ after := (List.nodup_cons.1 (List.nodup_append.1 h).2.1).1
  constructor
  · intro hmem
    by_contra hn
    rw [List.append_cons, rtake_append (Nat.le_of_not_lt hn)] at hmem
    exact ha (List.mem_of_mem_drop hmem)
  · intro hn
    rw [List.rtake, List.drop_append_of_le_length]
    · exact List.mem_append_right _ (List.mem_cons_self ..)
    · rw [List.length_append, List.length_cons]
      omega

variable [DecidableEq α]

theorem dedup_concat (ids : List α) (a : α) :
    (ids ++ [a]).dedup = ids.dedup.filter (· ≠ a) ++ [a] := by
  induction ids with
  | nil => rfl
  | cons x ids ih =>
    by_cases hx : x ∈ ids
    · rw [List.cons_append, List.dedup_cons_of_mem (List.mem_append_left _ hx), ih,
        List.dedup_cons_of_mem hx]
    · rw [List.dedup_cons_of_notMem hx, List.cons_append]
      by_cases ha : x = a
      · rw [List.dedup_cons_of_mem (by simp [ha]), ih, List.filter_cons_of_neg (by simp [ha])]
      · rw [List.dedup_cons_of_notMem (by simp [hx, ha]), ih,
          List.filter_cons_of_pos (by simp [ha]), List.cons_append]

theorem length_le_filter_concat {ids : List α} (h : ids.Nodup) (a : α) :
    ids.length ≤ (ids.filter (· ≠ a) ++ [a]).length := by
  have hfilter : ids.filter (· ≠ a) = ids.erase a := by
    rw [h.erase_eq_filter]
    exact List.filter_congr fun x _ => by rw [bne, beq_eq_decide, decide_not]
  have herase : ids.length - 1 ≤ (ids.erase a).length := List.le_length_erase
  rw [hfilter, List.length_append, List.length_singleton]
  omega

/-- To move an id to the end and keep the last `n`, the last `n` ids are enough. -/
theorem rtake_filter_concat {ids : List α} (h : ids.Nodup) (a : α) (n : Nat) :
    ((ids.rtake n).filter (· ≠ a) ++ [a]).rtake n = (ids.filter (· ≠ a) ++ [a]).rtake n := by
  by_cases hn : ids.length ≤ n
  · have hall : ids.rtake n = ids := by rw [List.rtake, Nat.sub_eq_zero_of_le hn, List.drop_zero]
    rw [hall]
  · have hkept : n ≤ ((ids.rtake n).filter (· ≠ a) ++ [a]).length := by
      have hlength := length_le_filter_concat (h.sublist (List.drop_sublist (ids.length - n) ids)) a
      rw [← List.rtake, length_rtake] at hlength
      omega
    have hsplit : ids.take (ids.length - n) ++ ids.rtake n = ids := List.take_append_drop ..
    calc ((ids.rtake n).filter (· ≠ a) ++ [a]).rtake n
        = ((ids.take (ids.length - n)).filter (· ≠ a) ++
            ((ids.rtake n).filter (· ≠ a) ++ [a])).rtake n := (rtake_append hkept).symm
      _ = (ids.filter (· ≠ a) ++ [a]).rtake n := by
        rw [← List.append_assoc, ← List.filter_append, hsplit]

end

/-! ### What a store holds -/

/-- The store holds the latest of the responses `adds`, as many as the limit allows. -/
structure Recent (limit : Nat) (adds : List Response) (l : Latest) : Prop where
  limit_eq : l.limit = limit
  order_eq : l.order = (adds.map (·.api)).dedup.rtake limit
  getElem?_eq : ∀ id, l.responses[id]? =
    if id ∈ l.order then adds.reverse.find? (·.api = id) else none

theorem recent_empty (given : Nat) : Recent (max given 1) [] (empty given) where
  limit_eq := rfl
  order_eq := by rw [List.map_nil, List.dedup_nil, List.rtake_nil, empty]
  getElem?_eq := fun id => Std.HashMap.getElem?_empty

theorem getElem?_foldl_erase (ids : List String) (m : Std.HashMap String Response) (id : String) :
    (ids.foldl (fun m id => m.erase id) m)[id]? = if id ∈ ids then none else m[id]? := by
  induction ids generalizing m with
  | nil => simp
  | cons first ids ih =>
    rw [List.foldl_cons, ih, Std.HashMap.getElem?_erase]
    by_cases hid : id ∈ ids
    · simp [hid]
    · by_cases hfirst : first = id
      · simp [hfirst]
      · simp [hid, hfirst, Ne.symm hfirst]

/-- Exactly the ids that stay in the queue keep their responses. -/
theorem getElem?_evict {l : Latest} (hnodup : l.order.Nodup)
    (hnone : ∀ id, id ∉ l.order → l.responses[id]? = none) (id : String) :
    l.evict.responses[id]? = if id ∈ l.evict.order then l.responses[id]? else none := by
  let extra := l.order.length - l.limit
  have hwhole : l.order.take extra ++ l.order.drop extra = l.order := List.take_append_drop ..
  have hresponses : l.evict.responses[id]? =
      if id ∈ l.order.take extra then none else l.responses[id]? := getElem?_foldl_erase ..
  rw [hresponses, show l.evict.order = l.order.drop extra from rfl]
  by_cases hgone : id ∈ l.order.take extra
  · rw [← hwhole] at hnodup
    have hnot : id ∉ l.order.drop extra := fun hstays =>
      (List.nodup_append.1 hnodup).2.2 id hgone id hstays rfl
    rw [if_pos hgone, if_neg hnot]
  · by_cases hstays : id ∈ l.order.drop extra
    · rw [if_neg hgone, if_pos hstays]
    · have hnot : id ∉ l.order := by
        rw [← hwhole, List.mem_append, not_or]
        exact ⟨hgone, hstays⟩
      rw [if_neg hgone, if_neg hstays, hnone id hnot]

/-- The store with a response added, before ids are taken off its queue. -/
def renew (l : Latest) (r : Response) : Latest :=
  { l with
    order := l.order.filter (· ≠ r.api) ++ [r.api]
    responses := l.responses.insert r.api r }

section
variable {limit : Nat} {adds : List Response} {l : Latest}

theorem Recent.clear (h : Recent limit adds l) : Recent limit [] l.clear where
  limit_eq := h.limit_eq
  order_eq := by rw [List.map_nil, List.dedup_nil, List.rtake_nil, Latest.clear]
  getElem?_eq := fun id => Std.HashMap.getElem?_empty

theorem Recent.nodup (h : Recent limit adds l) : l.order.Nodup := by
  rw [h.order_eq]
  exact (List.nodup_dedup _).sublist (List.drop_sublist ..)

/-- Queue and map have the same ids. -/
theorem Recent.mem_order_iff (h : Recent limit adds l) (id : String) :
    id ∈ l.order ↔ id ∈ l.responses := by
  rw [Std.HashMap.mem_iff_isSome_getElem?, h.getElem?_eq]
  by_cases hid : id ∈ l.order
  · have hadded : id ∈ adds.map (·.api) := by
      rw [h.order_eq] at hid
      exact List.mem_dedup.1 (List.mem_of_mem_drop hid)
    simpa [hid] using hadded
  · simp [hid]

/-- Whether the queue is searched makes no difference: an id that the map does not have is not in
the queue either. -/
theorem Recent.add_eq (h : Recent limit adds l) (r : Response) : l.add r = (l.renew r).evict := by
  unfold Latest.add renew
  by_cases hid : r.api ∈ l.responses
  · rw [if_pos hid]
  · have hnew : l.order.filter (· ≠ r.api) = l.order := by
      refine List.filter_eq_self.2 fun other hother => decide_eq_true fun hsame => hid ?_
      exact (h.mem_order_iff r.api).1 (hsame ▸ hother)
    rw [if_neg hid, hnew]

theorem Recent.nodup_renew (h : Recent limit adds l) (r : Response) : (l.renew r).order.Nodup :=
  (h.nodup.filter _).append (List.nodup_singleton _) (by simp)

theorem Recent.getElem?_renew (h : Recent limit adds l) (r : Response) (id : String) :
    (l.renew r).responses[id]? =
      if id ∈ (l.renew r).order then (adds ++ [r]).reverse.find? (·.api = id) else none := by
  rw [renew, Std.HashMap.getElem?_insert, h.getElem?_eq, List.reverse_append,
    List.reverse_singleton, List.singleton_append, List.find?_cons]
  by_cases hid : r.api = id
  · simp [hid]
  · simp [hid, Ne.symm hid]

theorem Recent.add (h : Recent limit adds l) (r : Response) :
    Recent limit (adds ++ [r]) (l.add r) where
  limit_eq := h.limit_eq
  order_eq := by
    have horder : (l.renew r).evict.order =
        (l.order.filter (· ≠ r.api) ++ [r.api]).rtake l.limit := rfl
    rw [h.add_eq, horder, h.limit_eq, h.order_eq, List.map_append, List.map_singleton, dedup_concat,
      rtake_filter_concat (List.nodup_dedup _)]
  getElem?_eq := by
    intro id
    have hnone (id : String) (hid : id ∉ (l.renew r).order) : (l.renew r).responses[id]? = none := by
      rw [h.getElem?_renew, if_neg hid]
    rw [h.add_eq, getElem?_evict (h.nodup_renew r) hnone]
    by_cases hkept : id ∈ (l.renew r).evict.order
    · rw [if_pos hkept, if_pos hkept, h.getElem?_renew, if_pos (List.mem_of_mem_drop hkept)]
    · rw [if_neg hkept, if_neg hkept]

end

/-! ### Following a run -/

theorem recent_perform {given : Nat} {adds : List Response} {l : Latest}
    (h : Recent (max given 1) adds l) (step : Handle × Op) :
    Recent (max given 1) (note adds step) (perform given l step) := by
  have hview : step.1.view given l = l := by
    rw [Handle.view, step.1.limit_eq, ← h.limit_eq]
  obtain ⟨handle, op⟩ := step
  cases op with
  | add r =>
    rw [perform, note, hview]
    exact h.add r
  | clear =>
    rw [perform, note, hview]
    exact h.clear
  | get id => exact h

/-- Whatever is done to a store, through whichever handles: it holds the latest responses of
those that have been added since it was last cleared. -/
theorem run_recent (given : Nat) (steps : List (Handle × Op)) :
    Recent (max given 1) (sinceClear steps) (run given steps) := by
  suffices ∀ (adds : List Response) (l : Latest), Recent (max given 1) adds l →
      Recent (max given 1) (steps.foldl note adds) (steps.foldl (perform given) l) from
    this [] (empty given) (recent_empty given)
  induction steps with
  | nil => exact fun adds l h => h
  | cons step steps ih => exact fun adds l h => ih _ _ (recent_perform h step)

/-! ### What a store answers -/

section
variable {limit : Nat} {adds before after : List Response} {l : Latest} {r : Response}

theorem Recent.get?_of_last (h : Recent limit adds l) (hadds : adds = before ++ r :: after)
    (hafter : ∀ x ∈ after, x.api ≠ r.api) :
    l.get? r.api = if (after.map (·.api)).dedup.length < limit then some r else none := by
  have hids : r.api ∉ after.map (·.api) := by simpa using hafter
  have hdedup : ∃ others, (adds.map (·.api)).dedup =
      others ++ r.api :: (after.map (·.api)).dedup := by
    rw [hadds, List.map_append, List.map_cons, List.dedup_append, List.dedup_cons_of_notMem hids]
    obtain ⟨others, hothers⟩ :=
      List.suffix_union_right (before.map (·.api)) (r.api :: (after.map (·.api)).dedup)
    exact ⟨others, hothers.symm⟩
  obtain ⟨others, hothers⟩ := hdedup
  have hnodup := List.nodup_dedup (adds.map (·.api))
  have hfind : adds.reverse.find? (·.api = r.api) = some r := by
    rw [hadds, List.reverse_append, List.reverse_cons, List.append_assoc, List.find?_append,
      List.find?_eq_none.2 (by simpa using hafter)]
    simp
  rw [hothers] at hnodup
  rw [get?, h.getElem?_eq, h.order_eq, hothers, hfind]
  simp only [mem_rtake_iff hnodup]

theorem Recent.get?_of_none (h : Recent limit adds l) {id : String}
    (hid : ∀ r ∈ adds, r.api ≠ id) : l.get? id = none := by
  have hfind : adds.reverse.find? (·.api = id) = none := List.find?_eq_none.2 (by simpa using hid)
  rw [get?, h.getElem?_eq, hfind, ite_self]

theorem Recent.api_eq (h : Recent limit adds l) {id : String}
    (hr : l.responses[id]? = some r) : r.api = id := by
  rw [h.getElem?_eq] at hr
  split at hr
  · simpa using List.find?_some hr
  · cases hr

theorem Recent.size_eq (h : Recent limit adds l) :
    l.size = min limit (adds.map (·.api)).dedup.length := by
  have hkeys : l.order.Perm l.responses.keys :=
    (List.perm_ext_iff_of_nodup h.nodup Std.HashMap.nodup_keys).2 fun id => by
      rw [h.mem_order_iff, Std.HashMap.mem_keys]
  rw [size, ← Std.HashMap.length_keys, ← hkeys.length_eq, h.order_eq, length_rtake]

end

/-- **The latest responses.** In every state that a run reaches, through any handle: an id has
the response added last for it since the last clearing, if fewer than the limit of other ids
have been added behind that, and none otherwise; the store has as many responses as there are
distinct ids since then, up to the limit; queue and map have the same ids, the queue each of
them once; and each response stands under its own id. -/
theorem run_latest (given : Nat) (steps : List (Handle × Op)) (handle : Handle) :
    let limit := max given 1
    let adds := sinceClear steps
    let l := handle.view given (run given steps)
    (∀ (before : List Response) (r : Response) (after : List Response),
        adds = before ++ r :: after → (∀ x ∈ after, x.api ≠ r.api) → l.get? r.api =
          if (after.map (·.api)).dedup.length < limit then some r else none) ∧
      (∀ id, (∀ r ∈ adds, r.api ≠ id) → l.get? id = none) ∧
      l.size = min limit (adds.map (·.api)).dedup.length ∧
      l.order.Nodup ∧ (∀ id, id ∈ l.order ↔ id ∈ l.responses) ∧
      ∀ (id : String) (r : Response), l.responses[id]? = some r → r.api = id := by
  intro limit adds l
  have h : Recent limit adds l := ⟨handle.limit_eq given, (run_recent given steps).order_eq,
    (run_recent given steps).getElem?_eq⟩
  exact ⟨fun before r after => h.get?_of_last, fun id => h.get?_of_none, h.size_eq, h.nodup,
    h.mem_order_iff, fun id r => h.api_eq⟩

/-- An answer to a request of that id. -/
def answer (api : String) (status : Nat) : Response :=
  { api, status, headers := [], body := [], latency := 0 }

/-- Two ids are updated after `b` in a store for two: it is gone, and `a` has its second answer. -/
def evicting : List (Handle × Op) :=
  [(.first, .add (answer "x" 200)), (.clone .first, .clear), (.first, .add (answer "a" 200)),
    (.clone .first, .add (answer "b" 200)), (.first, .get "b"),
    (.clone (.clone .first), .add (answer "a" 201)), (.first, .add (answer "c" 200))]

theorem run_latest_evicting :
    sinceClear evicting = [answer "a" 200, answer "b" 200, answer "a" 201, answer "c" 200] ∧
      (Handle.first.view 2 (run 2 evicting)).get? "a" = some (answer "a" 201) ∧
      (Handle.first.view 2 (run 2 evicting)).get? "b" = none ∧
      (Handle.first.view 2 (run 2 evicting)).get? "x" = none ∧
      (Handle.first.view 2 (run 2 evicting)).size = 2 := by
  obtain ⟨hlast, hnone, hsize, -⟩ := run_latest 2 evicting .first
  have ha := hlast [answer "a" 200, answer "b" 200] (answer "a" 201) [answer "c" 200] rfl (by decide)
  have hb := hlast [answer "a" 200] (answer "b" 200) [answer "a" 201, answer "c" 200] rfl (by decide)
  exact ⟨rfl, ha.trans (if_pos (by decide)), hb.trans (if_neg (by decide)),
    hnone "x" (by decide), hsize.trans (by decide)⟩

end Courier.Http.Latest
