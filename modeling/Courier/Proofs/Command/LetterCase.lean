import Courier.Proofs.Command.ContentType
import Courier.Proofs.Command.Explicit

/-! The letter case of methods.

A draft keeps the method as it was written, and only the request has it in upper case. Until then
nothing but data looks at it, and data knows a method by its upper-case name only (`makesPost`). So
the letter case of a method makes no difference to the request where data treats both spellings the
same, or where there is no data behind them (`parse_eq_of_letterCase`). Elsewhere it does
(`letterCase_counts`): data makes a post of a `GET`, and leaves a `get` what it is. -/

namespace Courier.Command

/-- Data makes a post of a request with this method. -/
def makesPost (method : String) : Bool :=
  method = "GET" || method = "HEAD"

/-- The drafts differ in nothing but the letter case of their methods. -/
structure Draft.SameButCase (d d' : Draft) : Prop where
  url : d'.url = d.url
  method : Text.upper d'.method = Text.upper d.method
  headers : d'.headers = d.headers
  body : d'.body = d.body

namespace Draft.SameButCase

/-- The request has its method in upper case. -/
theorem request_eq {d d' : Draft} (h : d.SameButCase d') : d'.request = d.request := by
  simp only [Draft.request, requestOf, contentTypeOf, h.url, h.method, h.headers, h.body]

/-- Only data looks at the method, and that only for whether it makes a post of the request. -/
theorem takeValue {d d' : Draft} (h : d.SameButCase d') {pending : Pending} (word : String)
    (hdata : makesPost d.method = makesPost d'.method ∨ pending ≠ .data) :
    (d.takeValue pending word).SameButCase (d'.takeValue pending word) ∧
      (makesPost d.method = makesPost d'.method →
        makesPost (d.takeValue pending word).method =
          makesPost (d'.takeValue pending word).method) := by
  obtain ⟨url, method, headers, body⟩ := d
  obtain ⟨_, method', _, _⟩ := d'
  obtain ⟨rfl, hmethod, rfl, rfl⟩ := h
  cases pending with
  | data =>
    have hpost : makesPost method = makesPost method' := hdata.resolve_right fun hne => hne rfl
    have hnames (method : String) :
        (method = "GET" ∨ method = "HEAD") ↔ makesPost method = true := by
      simp [makesPost]
    simp only [Draft.takeValue, Draft.addData_eq, hnames, ← hpost]
    refine ⟨⟨rfl, ?_, rfl, rfl⟩, fun _ => ?_⟩ <;> split
    · rfl
    · exact hmethod
    · rfl
    · exact hpost
  | method => exact ⟨⟨rfl, rfl, rfl, rfl⟩, fun _ => rfl⟩
  | none | header | userAgent | user | cookie => exact ⟨⟨rfl, hmethod, rfl, rfl⟩, id⟩

theorem step {d d' : Draft} (h : d.SameButCase d') {pending : Pending} {word : String}
    (hdata : makesPost d.method = makesPost d'.method ∨ ¬(pending = .data ∧ IsValue word)) :
    (Command.step pending d word).2.SameButCase (Command.step pending d' word).2 ∧
      (makesPost d.method = makesPost d'.method →
        makesPost (Command.step pending d word).2.method =
          makesPost (Command.step pending d' word).2.method) := by
  cases acts word with
  | url _ hstep =>
    rw [hstep, hstep]
    exact ⟨⟨rfl, h.method, h.headers, h.body⟩, id⟩
  | waits _ _ hstep =>
    rw [hstep, hstep]
    exact ⟨h, id⟩
  | head _ hstep =>
    rw [hstep, hstep]
    exact ⟨⟨h.url, rfl, h.headers, h.body⟩, fun _ => rfl⟩
  | compressed _ hstep =>
    have hhas : d'.has "Accept-Encoding" = d.has "Accept-Encoding" := by
      rw [Draft.has, Draft.has, h.headers]
    rw [hstep, hstep]
    dsimp only
    rw [hhas]
    split
    · exact ⟨h, id⟩
    · exact ⟨⟨h.url, h.method, congrArg (setField _ _) h.headers, h.body⟩, id⟩
  | value hvalue hstep =>
    rw [hstep, hstep]
    exact h.takeValue word (hdata.imp_right fun hnot hpending => hnot ⟨hpending, hvalue⟩)

theorem run {d d' : Draft} (h : d.SameButCase d') {pending : Pending} {words : List String}
    (hdata : makesPost d.method = makesPost d'.method ∨
      ∀ data, (.data, data) ∉ taken pending words) :
    (Command.run pending d words).2.SameButCase (Command.run pending d' words).2 := by
  induction words generalizing pending d d' with
  | nil => exact h
  | cons word words ih =>
    have hfirst : makesPost d.method = makesPost d'.method ∨ ¬(pending = .data ∧ IsValue word) := by
      refine hdata.imp_right fun hnone => ?_
      rintro ⟨rfl, hvalue⟩
      exact hnone word (by simp [taken, hvalue])
    obtain ⟨hnext, hpost⟩ := h.step hfirst
    rw [run_cons, run_cons, fst_step pending d' d]
    refine ih hnext (hdata.imp hpost fun hnone data hmem => hnone data ?_)
    rw [taken, fst_step pending {} d]
    exact List.mem_append_right _ hmem

end Draft.SameButCase

/-! ### Commands -/

/-- The text is a command in which `method` is the value of a flag for methods, with these words
before and behind it. A glued method is a word of its own. -/
structure MethodAt (text : String) (before : List String) (method : String) (after : List String) :
    Prop where
  command : isCommand (normalize text) = true
  words : ∃ words, Shell.words? (normalize text) = some words ∧
    unglue words = before ++ method :: after
  waiting : (run .none {} before).1 = .method
  value : IsValue method

theorem MethodAt.parse_eq {text method : String} {before after : List String}
    (h : MethodAt text before method after) :
    parse text = Draft.request
      (run .none { (run .none {} before).2 with method := method } after).2 := by
  obtain ⟨words, hwords, hmethod⟩ := h.words
  have hrun : run .none {} (unglue words) =
      run .none { (run .none {} before).2 with method := method } after := by
    rw [hmethod, run_append, h.waiting, run_cons, step_value _ _ h.value]
    rfl
  simp only [parse, h.command, if_true, hwords, ofWords, hrun]
  rfl

/-- **The letter case of a method makes no difference** where data treats both spellings the same,
or where there is no data behind them. -/
theorem parse_eq_of_letterCase {text other method method' : String} {before after : List String}
    (h : MethodAt text before method after) (h' : MethodAt other before method' after)
    (hcase : Text.sameIgnoringCase method' method = true)
    (hdata : makesPost method = makesPost method' ∨ ∀ data, (.data, data) ∉ taken .none after) :
    parse other = parse text := by
  have hsame : Draft.SameButCase { (run .none {} before).2 with method := method }
      { (run .none {} before).2 with method := method' } :=
    ⟨rfl, Text.upper_eq_of_sameIgnoringCase hcase, rfl, rfl⟩
  rw [h.parse_eq, h'.parse_eq, (hsame.run hdata).request_eq]

/-- Data behind a method tells its spellings apart. -/
theorem letterCase_counts :
    ¬∀ (text other method method' : String) (before after : List String),
      MethodAt text before method after → MethodAt other before method' after →
      (Http.Method.ofAnyCase? method).isSome = true →
      Text.sameIgnoringCase method' method = true →
      ∀ r, parse text = .ok r → parse other = .ok r := by
  intro h
  have hget : parse "curl -X GET -d a=1 http://[::1]/" =
      .ok { method := .post, uri := "http://[::1]/", body := "a=1", contentType := Http.formType } := by
    decide +kernel
  have hlower : parse "curl -X get -d a=1 http://[::1]/" =
      .ok { method := .get, uri := "http://[::1]/", body := "a=1", contentType := Http.formType } := by
    decide +kernel
  have hsame := h _ "curl -X get -d a=1 http://[::1]/" "GET" "get" ["curl", "-X", ""]
    ["-d", "a=1", "http://[::1]/"]
    ⟨by decide +kernel, ⟨["curl", "-X", "GET", "-d", "a=1", "http://[::1]/"], by decide +kernel,
      by decide⟩, by decide, by decide⟩
    ⟨by decide +kernel, ⟨["curl", "-X", "get", "-d", "a=1", "http://[::1]/"], by decide +kernel,
      by decide⟩, by decide, by decide⟩ (by decide) (by decide) _ hget
  exact absurd (hlower.symm.trans hsame) (by decide)

end Courier.Command
