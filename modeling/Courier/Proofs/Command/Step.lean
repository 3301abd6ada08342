import Courier.Command.Options

/-! What one word does to the machine that reads commands.

Words are of three kinds: URLs, flags, and values (`IsValue`), empty words apart. `acts` says what
the machine does with a word of any kind. Invariants of drafts, and of what is waited for, follow
from it one case at a time. -/

namespace Courier.Command

/-! ### Runs -/

theorem run_cons (pending : Pending) (d : Draft) (word : String) (words : List String) :
    run pending d (word :: words) =
      run (step pending d word).1 (step pending d word).2 words := rfl

theorem run_append (pending : Pending) (d : Draft) (words more : List String) :
    run pending d (words ++ more) =
      run (run pending d words).1 (run pending d words).2 more :=
  List.foldl_append ..

/-- Empty words leave the machine where it is. -/
theorem run_filter (pending : Pending) (d : Draft) (words : List String) :
    run pending d (words.filter (· ≠ "")) = run pending d words := by
  induction words generalizing pending d with
  | nil => rfl
  | cons word words ih =>
    by_cases hword : word = ""
    · subst hword
      exact ih pending d
    · rw [List.filter_cons_of_pos (by simpa using hword), run_cons, run_cons, ih]

/-! ### Words of each kind -/

/-- Whether a word is a flag. -/
def isFlag (word : String) : Bool :=
  (pendingOf? word).isSome || word = "-I" || word = "--head" || word = "--compressed"

/-- A word that is taken for whatever the machine waits for. -/
structure IsValue (word : String) : Prop where
  url : isUrl word = false
  flag : isFlag word = false
  nonempty : word ≠ ""

instance (word : String) : Decidable (IsValue word) :=
  decidable_of_iff (isUrl word = false ∧ isFlag word = false ∧ word ≠ "")
    ⟨fun ⟨url, flag, nonempty⟩ => ⟨url, flag, nonempty⟩, fun h => ⟨h.url, h.flag, h.nonempty⟩⟩

theorem step_value (pending : Pending) (d : Draft) {word : String} (h : IsValue word) :
    step pending d word = (.none, d.takeValue pending word) := by
  obtain ⟨⟨⟨hpending, hinfo⟩, hhead⟩, hcompressed⟩ : (((pendingOf? word).isSome = false ∧
      word ≠ "-I") ∧ word ≠ "--head") ∧ word ≠ "--compressed" := by
    simpa [isFlag] using h.flag
  have hnone : pendingOf? word = none := Option.not_isSome_iff_eq_none.1 (by simp [hpending])
  simp [step, h.url, hnone, hinfo, hhead, hcompressed, h.nonempty]

theorem step_flag (pending : Pending) (d : Draft) {word : String} {next : Pending}
    (hurl : isUrl word = false) (h : pendingOf? word = some next) :
    step pending d word = (next, d) := by
  simp [step, hurl, h]

theorem step_url (pending : Pending) (d : Draft) {word : String} (h : isUrl word = true) :
    step pending d word = (pending, { d with url := some word }) := by
  simp [step, h]

/-- A flag and its value. -/
theorem run_flag (d : Draft) {flag value : String} {pending : Pending}
    (hflag : isUrl flag = false) (hpending : pendingOf? flag = some pending) (h : IsValue value)
    (words : List String) :
    run .none d (flag :: value :: words) = run .none (d.takeValue pending value) words := by
  rw [run_cons, step_flag _ _ hflag hpending, run_cons, step_value _ _ h]

/-! ### A word of any kind -/

/-- What a word does, whatever is waited for and whatever the draft is. -/
inductive Acts (word : String) : Prop where
  | url (h : isUrl word = true)
      (hstep : ∀ pending d, step pending d word = (pending, { d with url := some word }))
  /-- It changes what is waited for, or is empty. -/
  | waits (next : Pending → Pending) (h : isUrl word = false)
      (hstep : ∀ pending d, step pending d word = (next pending, d))
  | head (h : isUrl word = false)
      (hstep : ∀ pending d, step pending d word = (pending, { d with method := "HEAD" }))
  | compressed (h : isUrl word = false)
      (hstep : ∀ pending d, step pending d word =
        (pending, if d.has "Accept-Encoding" then d else d.set "Accept-Encoding" encodings))
  | value (h : IsValue word)
      (hstep : ∀ pending d, step pending d word = (.none, d.takeValue pending word))

theorem acts (word : String) : Acts word := by
  cases hurl : isUrl word with
  | true => exact .url hurl fun pending d => step_url pending d hurl
  | false =>
    by_cases hvalue : IsValue word
    · exact .value hvalue fun pending d => step_value pending d hvalue
    · cases hpending : pendingOf? word with
      | some next => exact .waits (fun _ => next) hurl fun pending d => step_flag pending d hurl hpending
      | none =>
        by_cases hhead : word = "-I" ∨ word = "--head"
        · exact .head hurl fun pending d => by simp [step, hurl, hpending, hhead]
        · by_cases hcompressed : word = "--compressed"
          · subst hcompressed
            exact .compressed hurl fun pending d => rfl
          · -- a word of no other kind is empty
            have hempty : word = "" := by
              have hflag : isFlag word = false := by
                simp [isFlag, hpending, hcompressed, not_or.1 hhead]
              exact Decidable.of_not_not fun hword => hvalue ⟨hurl, hflag, hword⟩
            subst hempty
            exact .waits id hurl fun pending d => rfl

/-- What is waited for behind a word does not depend on the draft. -/
theorem fst_step (pending : Pending) (d other : Draft) (word : String) :
    (step pending d word).1 = (step pending other word).1 := by
  cases acts word with
  | url _ hstep | waits _ _ hstep | head _ hstep | compressed _ hstep | value _ hstep =>
    rw [hstep, hstep]

/-! ### Data -/

/-- More data has a part in the method, in the headers and in the body. -/
theorem Draft.addData_eq (d : Draft) (data : String) :
    d.addData data =
      { d with
        method := if d.method = "GET" ∨ d.method = "HEAD" then "POST" else d.method
        headers :=
          if d.hasContentType then d.headers
          else setField "Content-Type" Http.formType d.headers
        body := if d.body = "" then data else d.body ++ "&" ++ data } := by
  have hposted (method : String) :
      ({ d with method } : Draft).hasContentType = d.hasContentType := rfl
  unfold addData
  dsimp only
  split
  · rw [hposted]
    split <;> rfl
  · split <;> rfl

/-! ### Glued methods -/

theorem unglue_append (words more : List String) :
    unglue (words ++ more) = unglue words ++ unglue more :=
  List.flatMap_append

theorem unglue_cons (word : String) (words : List String) :
    unglue (word :: words) = unglue [word] ++ unglue words :=
  unglue_append [word] words

/-- Words without a glued method stay as they are. -/
theorem unglue_eq_self {words : List String} (h : ∀ word ∈ words, ¬"-X".toList <+: word.toList) :
    unglue words = words := by
  induction words with
  | nil => rfl
  | cons word words ih =>
    obtain ⟨hword, hwords⟩ := List.forall_mem_cons.1 h
    have htail : unglue words = words := ih hwords
    rw [unglue, List.flatMap_cons, ← unglue, htail]
    split
    · next method hmethod => exact absurd ⟨method, hmethod.symm⟩ hword
    · rfl

end Courier.Command
