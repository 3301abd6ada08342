import Courier.Proofs.Command.Reading

/-! The content type of an imported command.

Data sets a content type by itself where no header has, so a draft without such headers has this
one, or no content type and no body (`Draft.Formed.run`). What a body looks like is not asked for
then: `contentType_of_parse` says that a command without a header for the content type makes a form,
or a request without a body. -/

namespace Courier.Command

/-- The words that are taken as values, each with what it is for. -/
def taken (pending : Pending) : List String → List (Pending × String)
  | [] => []
  | word :: words =>
    (if IsValue word then [(pending, word)] else []) ++ taken (step pending {} word).1 words

/-! ### Drafts without a header for the content type -/

/-- The draft has the content type that data sets, if it has a body. -/
def Draft.Formed (d : Draft) : Prop :=
  d.headers.filter (fun header => Http.isContentType header.1) =
    if d.body = "" then [] else [("Content-Type", Http.formType)]

theorem Draft.formed_empty : ({} : Draft).Formed := rfl

namespace Draft.Formed
variable {d : Draft} (h : d.Formed)
include h

theorem set {name : String} (hname : Http.isContentType name = false) (value : String) :
    (d.set name value).Formed := by
  show (setField name value d.headers).filter _ = _
  rw [filter_setField Http.isContentType, hname]
  exact h

theorem hasContentType_iff : d.hasContentType = true ↔ d.body ≠ "" := by
  have hnames : d.hasContentType = true ↔
      d.headers.filter (fun header => Http.isContentType header.1) ≠ [] := by
    simp [hasContentType]
  rw [hnames, h]
  split <;> simp [*]

/-- Data sets the content type the first time. -/
theorem addData {data : String} (hdata : data ≠ "") : (d.addData data).Formed := by
  have hbody : (if d.body = "" then data else d.body ++ "&" ++ data) ≠ "" := by
    split
    · exact hdata
    · simp
  rw [d.addData_eq, Formed, if_neg hbody]
  dsimp only
  split
  · next htyped => rw [h, if_neg (h.hasContentType_iff.1 htyped)]
  · next htyped =>
    have hempty : d.body = "" := by simpa using mt h.hasContentType_iff.2 htyped
    rw [filter_setField Http.isContentType, h, if_pos hempty]
    rfl

theorem takeValue {pending : Pending} {word : String} (hword : IsValue word)
    (hheader : pending = .header → Http.isContentType (readField word).1 = false) :
    (d.takeValue pending word).Formed := by
  cases pending with
  | none => exact h
  | header => exact h.set (hheader rfl) _
  | userAgent => exact h.set (by decide) word
  | data => exact h.addData hword.nonempty
  | user => exact h.set (by decide) (basic word)
  | method => exact h
  | cookie => exact h.set (by decide) word

theorem step {pending : Pending} {word : String}
    (hheader : IsValue word → pending = .header → Http.isContentType (readField word).1 = false) :
    (Command.step pending d word).2.Formed := by
  cases acts word with
  | url _ hstep | waits _ _ hstep | head _ hstep =>
    rw [hstep]
    exact h
  | compressed _ hstep =>
    rw [hstep]
    dsimp only
    split
    · exact h
    · exact h.set (by decide) encodings
  | value hvalue hstep =>
    rw [hstep]
    exact h.takeValue hvalue (hheader hvalue)

theorem run {pending : Pending} {words : List String}
    (hheader : ∀ line, (.header, line) ∈ taken pending words →
      Http.isContentType (readField line).1 = false) :
    (Command.run pending d words).2.Formed := by
  induction words generalizing pending d with
  | nil => exact h
  | cons word words ih =>
    rw [taken] at hheader
    rw [run_cons]
    refine ih (h.step fun hvalue hpending => hheader word ?_) fun line hline => hheader line ?_
    · rw [if_pos hvalue, hpending]
      exact List.mem_append_left _ (List.mem_singleton_self _)
    · rw [fst_step pending {} d]
      exact List.mem_append_right _ hline

theorem contentTypeOf_eq : contentTypeOf d = if d.body = "" then "" else Http.formType := by
  have htypes : typeFields d.headers =
      if d.body = "" then [] else [("Content-Type", Http.formType)] := h
  split
  · next hempty =>
    rw [if_pos hempty] at htypes
    exact contentTypeOf_of_typeFields_eq_nil htypes hempty
  · next hsome =>
    rw [if_neg hsome] at htypes
    have hlast : (typeFields d.headers).getLast? = some ("Content-Type", Http.formType) := by
      rw [htypes]
      rfl
    rw [contentTypeOf_of_getLast? hlast (by decide)]
    decide

end Draft.Formed

/-! ### Imported commands -/

/-- A request is made of the draft that the words of its command leave. -/
theorem exists_of_parse {text : String} {r : Http.Request} (h : parse text = .ok r) :
    ∃ words url, Shell.words? (normalize text) = some words ∧
      r = requestOf (run .none {} (unglue words)).2 url := by
  simp only [parse] at h
  split at h
  · split at h
    · cases h
    · next words hwords =>
      simp only [ofWords] at h
      split at h
      · cases h
      · next url _ => exact ⟨words, url, hwords, (Except.ok.inj h).symm⟩
  · cases h

/-- **A command without a header for the content type makes a form**, if it has a body, whatever
the body looks like. Without a body it has no content type. -/
theorem contentType_of_parse {text : String} {r : Http.Request} {words : List String}
    (h : parse text = .ok r) (hwords : Shell.words? (normalize text) = some words)
    (hheader : ∀ line, (.header, line) ∈ taken .none (unglue words) →
      Http.isContentType (readField line).1 = false) :
    r.contentType = if r.body = "" then "" else Http.formType := by
  obtain ⟨others, url, hothers, rfl⟩ := exists_of_parse h
  cases hwords.symm.trans hothers
  exact (Draft.formed_empty.run hheader).contentTypeOf_eq

/-- A body that looks like JSON makes a form too. -/
example : (parse "curl -d [1] -H A:b http://[::1]/").toOption.map (·.contentType) =
    some Http.formType := by
  decide +kernel

end Courier.Command
