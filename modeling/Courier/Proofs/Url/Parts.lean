import Mathlib.Data.List.Infix
import Courier.Url.Basic
import Courier.Proofs.Url.Percent

/-! The parts of a URL as text.

What a URL of the network shows before its query, its origin and its path, consists of visible
characters, and none of them is a question mark or a number sign; nothing in the part between the
scheme and the path can be taken for credentials or for a path (`Shape`, `shape_of_parse?`). -/

namespace Courier.Url

/-! ### Characters -/

/-- The characters that stand before a query. -/
def isOuter (c : Char) : Bool :=
  0x20 < c.toNat && c ≠ '?' && c ≠ '#'

/-- The characters of a host and a port. -/
def isAuthority (c : Char) : Bool :=
  isOuter c && c ≠ '/' && c ≠ '\\' && c ≠ '@'

theorem isOuter_of_isAuthority {c : Char} (h : isAuthority c = true) : isOuter c = true := by
  simp only [isAuthority, Bool.and_eq_true] at h
  exact h.1.1.1

theorem forall_mem_toDigits {p : Char → Prop} {base : Nat} (hbase : 1 < base)
    (h : ∀ d < base, p (Nat.digitChar d)) (n : Nat) : ∀ c ∈ Nat.toDigits base n, p c := by
  induction n using Nat.strongRecOn with
  | ind n ih =>
    rw [Nat.toDigits_eq_if hbase]
    have hlast : p (Nat.digitChar (n % base)) := h _ (Nat.mod_lt n (by omega))
    split
    · next hn => simpa using h n hn
    · next hn =>
      have hlt : n / base < n := Nat.div_lt_self (by omega) hbase
      simpa [or_imp, forall_and] using ⟨ih _ hlt, hlast⟩

/-! ### Hosts -/

theorem isAuthority_digitChar : ∀ d < 16, isAuthority (Nat.digitChar d) = true := by decide

theorem isAuthority_toDigits {base : Nat} (hone : 1 < base) (hbase : base ≤ 16) (n : Nat) :
    ∀ c ∈ Nat.toDigits base n, isAuthority c = true :=
  forall_mem_toDigits hone (fun d hd => isAuthority_digitChar d (by omega)) n

theorem isAuthority_renderV4 (address : Nat) :
    ∀ c ∈ V4.render address, isAuthority c = true := by
  unfold V4.render
  apply Text.forall_mem_intercalate (p := fun c => isAuthority c = true) (by decide)
  simp only [List.forall_mem_map]
  intro i _
  exact isAuthority_toDigits (by decide) (by decide) _

theorem isAuthority_renderV6 (pieces : List Nat) :
    ∀ c ∈ V6.render pieces, isAuthority c = true := by
  have hpieces (ps : List Nat) : ∀ c ∈ V6.renderPieces ps, isAuthority c = true := by
    unfold V6.renderPieces
    apply Text.forall_mem_intercalate (p := fun c => isAuthority c = true) (by decide)
    simp only [List.forall_mem_map]
    intro n _
    exact isAuthority_toDigits (by decide) (by decide) n
  have hcolons : ∀ c ∈ [':', ':'], isAuthority c = true := List.all_eq_true.1 (by decide)
  have hopen : isAuthority '[' = true := by decide
  have hclose : ∀ c ∈ [']'], isAuthority c = true := List.all_eq_true.1 (by decide)
  unfold V6.render
  simp only [List.cons_append]
  refine List.forall_mem_cons.2 ⟨hopen, List.forall_mem_append.2 ⟨?_, hclose⟩⟩
  split
  · exact hpieces _
  · simp only [List.forall_mem_append]
    exact ⟨⟨hpieces _, hcolons⟩, hpieces _⟩

theorem isAuthority_of_allowed {c : Char} (h : Host.isForbiddenInDomain c = false) :
    isAuthority c = true := by
  simp only [Host.isForbiddenInDomain, Host.isForbidden, Bool.or_eq_false_iff,
    decide_eq_false_iff_not, Nat.not_lt] at h
  obtain ⟨⟨⟨hlisted, hcontrol⟩, -⟩, -⟩ := h
  have hne (d : Char) (hd : " #/:<>?@[\\]^|\x00\t\n\x0d".toList.contains d = true) : c ≠ d :=
    (Text.ne_of_class hd hlisted).symm
  have hspace : c.toNat ≠ 0x20 := fun hc => hne ' ' (by decide) (Char.toNat_inj.1 hc)
  have hvisible : 0x20 < c.toNat := by omega
  simp [isAuthority, isOuter, hvisible, hne '?' (by decide), hne '#' (by decide),
    hne '/' (by decide), hne '\\' (by decide), hne '@' (by decide)]

theorem isAuthority_host {cs : List Char} {host : Host} (h : Host.parse? cs = some host) :
    ∀ c ∈ host.render, isAuthority c = true := by
  unfold Host.parse? at h
  split at h
  · unfold Host.bracketed? at h
    split at h
    · obtain ⟨pieces, -, rfl⟩ := Option.map_eq_some_iff.1 h
      exact isAuthority_renderV6 pieces
    · cases h
  · split at h
    · cases h
    · split at h
      · cases h
      · next name _ =>
        split at h
        · cases h
        · next hallowed =>
          split at h
          · obtain ⟨address, -, rfl⟩ := Option.map_eq_some_iff.1 h
            exact isAuthority_renderV4 address
          · cases h
            simp only [Bool.or_eq_true, not_or, List.any_eq_true, not_exists, not_and,
              Bool.not_eq_true] at hallowed
            exact fun c hc => isAuthority_of_allowed (hallowed.2 c hc)

/-! ### Paths -/

theorem isOuter_keptInPath {c : Char} (h : Percent.keptInPath c = true) : isOuter c = true := by
  simp only [Percent.keptInPath, Percent.isPrintable, Bool.and_eq_true, decide_eq_true_eq,
    Bool.not_eq_true'] at h
  obtain ⟨⟨hlow, -⟩, hlisted⟩ := h
  have hne (d : Char) (hd : " \"#<>?\x60\x7b\x7d".toList.contains d = true) : c ≠ d :=
    (Text.ne_of_class hd hlisted).symm
  have hspace : c.toNat ≠ 0x20 := fun hc => hne ' ' (by decide) (Char.toNat_inj.1 hc)
  have hvisible : 0x20 < c.toNat := by omega
  simp [isOuter, hvisible, hne '?' (by decide), hne '#' (by decide)]

theorem isOuter_encode (segment : List Char) :
    ∀ c ∈ Percent.encode Percent.keptInPath segment, isOuter c = true :=
  Percent.forall_mem_encode (fun _ => isOuter_keptInPath) (by decide) (by decide) segment

theorem mem_of_mem_leave {segment : List Char} {done : List (List Char)}
    (h : segment ∈ leave done) : segment ∈ done := by
  unfold leave at h
  split at h
  · exact h
  · split at h
    · exact h
    · exact List.mem_cons_of_mem _ h

/-- What a walk adds is encoded, or empty. -/
theorem isOuter_walk {segments done : List (List Char)}
    (hdone : ∀ segment ∈ done, ∀ c ∈ segment, isOuter c = true) :
    ∀ segment ∈ walk done segments, ∀ c ∈ segment, isOuter c = true := by
  induction segments generalizing done with
  | nil => simpa [walk] using hdone
  | cons segment rest ih =>
    have hend {done : List (List Char)} (h : ∀ segment ∈ done, ∀ c ∈ segment, isOuter c = true) :
        ∀ segment ∈ (if rest.isEmpty then [] :: done else done), ∀ c ∈ segment,
          isOuter c = true := by
      split
      · exact List.forall_mem_cons.2 ⟨nofun, h⟩
      · exact h
    rw [walk]
    split
    · exact ih (hend fun s hs => hdone s (mem_of_mem_leave hs))
    · split
      · exact ih (hend hdone)
      · exact ih (List.forall_mem_cons.2 ⟨isOuter_encode segment, hdone⟩)

/-- A path has one segment at least: where dots end it, an empty one is left. -/
theorem walk_ne_nil {segments : List (List Char)} (h : segments ≠ []) (done : List (List Char)) :
    walk done segments ≠ [] := by
  induction segments generalizing done with
  | nil => exact absurd rfl h
  | cons segment rest ih =>
    rw [walk]
    cases rest with
    | nil =>
      simp only [List.isEmpty_nil, if_true, walk]
      split
      · simp
      · split <;> simp
    | cons next rest =>
      split
      · exact ih (by simp) _
      · split <;> exact ih (by simp) _

theorem path_segments (kind : Kind) (cs : List Char) :
    ∃ rest, joinSegments (segments kind cs) = '/' :: rest ∧ ∀ c ∈ rest, isOuter c = true := by
  have hcut (inner : List Char) : cutSegments kind inner ≠ [] := by
    rw [cutSegments, Text.splitOn_eq]
    exact List.splitOn_ne_nil '/' _
  obtain ⟨inner, hinner⟩ : ∃ inner, segments kind cs = walk [] (cutSegments kind inner) := ⟨_, rfl⟩
  have houter : ∀ segment ∈ walk [] (cutSegments kind inner), ∀ c ∈ segment, isOuter c = true :=
    isOuter_walk nofun
  obtain ⟨first, others, hwalk⟩ := List.exists_cons_of_ne_nil (walk_ne_nil (hcut inner) [])
  rw [hwalk] at houter
  refine ⟨first ++ others.flatMap ('/' :: ·), by rw [hinner, hwalk]; rfl, ?_⟩
  obtain ⟨hfirst, hothers⟩ := List.forall_mem_cons.1 houter
  simp only [List.forall_mem_append, List.forall_mem_flatMap, List.forall_mem_cons]
  exact ⟨hfirst, fun segment hsegment => ⟨by decide, hothers segment hsegment⟩⟩

/-! ### The whole -/

/-- The scheme and the query go into a URL as they are. -/
theorem assemble?_eq_map (scheme body : List Char) (query : Option (List Char)) (last : Bool) :
    assemble? scheme body query last =
      (assemble? scheme body none last).map fun u => { u with scheme := scheme, query := query } := by
  unfold assemble?
  simp only [Option.bind_eq_bind]
  split
  · generalize authority? _ _ _ _ = found
    cases found <;> rfl
  · split
    · rfl
    · split
      · rfl
      · generalize Host.parse? _ = found
        cases found <;> rfl
  · split
    · generalize authority? _ _ _ _ = found
      cases found <;> rfl
    · rfl
    · rfl

/-- What is allowed when something stands behind the text is allowed when nothing does. -/
theorem authority?_last {kind : Kind} {scheme cs : List Char} {r : Host × Option Nat}
    (h : authority? kind scheme cs false = some r) (last : Bool) :
    authority? kind scheme cs last = some r := by
  have howned (credentials : Option (List Char))
      (h : (credentials.any fun c => if c.isEmpty then !last else decide (c ≠ [':'])) = true) :
      (credentials.any fun c => if c.isEmpty then !false else decide (c ≠ [':'])) = true := by
    cases credentials with
    | none => cases h
    | some c => cases c <;> simp_all
  unfold authority? at h ⊢
  dsimp only at h ⊢
  split at h
  · exact h
  · split at h
    · cases h
    · next hfree =>
      rw [if_neg]
      · exact h
      · rintro ⟨hempty, hlast⟩
        refine hfree ⟨hempty, ?_⟩
        rw [Bool.or_eq_true] at hlast ⊢
        exact hlast.imp_right (howned _)

theorem assemble?_last {scheme body : List Char} {query : Option (List Char)} {u : Url}
    (h : assemble? scheme body query false = some u) (last : Bool) :
    assemble? scheme body query last = some u := by
  unfold assemble? at h ⊢
  simp only [Option.bind_eq_bind] at h ⊢
  have hbind (front : Bool) {kind : Kind} {cs : List Char} {f : Host × Option Nat → Option Url}
      (h : (authority? kind scheme cs (false && front)).bind f = some u) :
      (authority? kind scheme cs (last && front)).bind f = some u := by
    obtain ⟨r, hr, hf⟩ := Option.bind_eq_some_iff.1 h
    rw [authority?_last (by simpa using hr) (last && front)]
    exact hf
  split at h
  · simpa using hbind true (by simpa using h)
  · exact h
  · split at h
    · exact hbind _ h
    · exact h
    · exact h

theorem assemble?_network {scheme body : List Char} (query : Option (List Char))
    (hscheme : kind scheme = .network) (last last' : Bool) :
    assemble? scheme body query last = assemble? scheme body query last' := by
  simp only [assemble?, hscheme, authority?]

theorem authority_of_assemble? {scheme body : List Char} {query : Option (List Char)} {last : Bool}
    {u : Url} (hscheme : kind scheme = .network) (h : assemble? scheme body query last = some u) :
    (∃ name host, Host.parse? name = some host ∧ u.host = some host) ∧
      ∃ way, u.path = joinSegments (segments .network way) := by
  simp only [assemble?, hscheme, Option.bind_eq_bind] at h
  obtain ⟨⟨host, port⟩, hauthority, h⟩ := Option.bind_eq_some_iff.1 h
  cases h
  simp only [authority?, Option.bind_eq_bind] at hauthority
  split at hauthority
  · cases hauthority
  · obtain ⟨host, hhost, hauthority⟩ := Option.bind_eq_some_iff.1 hauthority
    obtain ⟨port, -, hauthority⟩ := Option.bind_eq_some_iff.1 hauthority
    cases hauthority
    exact ⟨⟨_, host, hhost, rfl⟩, _, rfl⟩

/-- What a URL of the network shows before its query. -/
structure Shape (u : Url) : Prop where
  scheme : kind u.scheme = .network
  /-- Host and port have neither credentials before them nor a path in them. -/
  authority : ∀ c ∈ u.hostPort, isAuthority c = true
  path : ∃ rest, u.path = '/' :: rest ∧ ∀ c ∈ rest, isOuter c = true

theorem shape_of_assemble? {scheme body : List Char} {query : Option (List Char)} {last : Bool}
    {u : Url} (hscheme : kind scheme = .network) (h : assemble? scheme body query last = some u) :
    Shape u := by
  obtain ⟨⟨name, host, hname, hhost⟩, way, hway⟩ := authority_of_assemble? hscheme h
  rw [assemble?_eq_map] at h
  obtain ⟨v, -, hu⟩ := Option.map_eq_some_iff.1 h
  refine ⟨by rw [← hu]; exact hscheme, ?_, by rw [hway]; exact path_segments .network way⟩
  simp only [hostPort, hhost, List.forall_mem_append]
  refine ⟨isAuthority_host hname, ?_⟩
  split
  · exact nofun
  · exact List.forall_mem_cons.2 ⟨by decide, isAuthority_toDigits (by decide) (by decide) _⟩

theorem shape_of_parse? {text : List Char} {u : Url} (h : parse? text = some u)
    (hscheme : kind u.scheme = .network) : Shape u := by
  simp only [parse?] at h
  split at h
  · cases h
  · next scheme body _ =>
    have hu : u.scheme = scheme := by
      rw [assemble?_eq_map] at h
      obtain ⟨v, -, rfl⟩ := Option.map_eq_some_iff.1 h
      rfl
    exact shape_of_assemble? (hu ▸ hscheme) h

end Courier.Url
