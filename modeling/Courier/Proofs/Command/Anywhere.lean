import Courier.Proofs.Command.Import
import Courier.Proofs.Command.Step

/-! Where the URL of a command stands.

A URL leaves what is waited for, and no other word looks at the URL of the draft (`step_withUrl`).
So a URL may be put anywhere among words that are none, also between a flag and its value: the
machine ends up in the same state with the same draft (`run_url_anywhere`). A method that is glued to
its flag is a word of its own here: if it is a URL, then of the two URLs the last one counts
(`not_anywhere`). -/

namespace Courier.Command

/-! ### Words that are no URL -/

section
variable (d : Draft) (url : Option String)

theorem Draft.addData_withUrl (data : String) :
    ({ d with url } : Draft).addData data = { d.addData data with url } := by
  have htyped : ({ d with url } : Draft).hasContentType = d.hasContentType := rfl
  rw [Draft.addData_eq, Draft.addData_eq, htyped]

/-- No value looks at the URL. -/
theorem Draft.takeValue_withUrl (pending : Pending) (word : String) :
    ({ d with url } : Draft).takeValue pending word = { d.takeValue pending word with url } := by
  cases pending with
  | data => exact d.addData_withUrl url word
  | none | header | userAgent | user | method | cookie => rfl

theorem step_withUrl (pending : Pending) {word : String} (h : isUrl word = false) :
    step pending { d with url } word =
      ((step pending d word).1, { (step pending d word).2 with url }) := by
  cases acts word with
  | url hurl _ => cases h.symm.trans hurl
  | waits _ _ hstep | head _ hstep => simp only [hstep]
  | compressed _ hstep =>
    have hhas : ({ d with url } : Draft).has "Accept-Encoding" = d.has "Accept-Encoding" := rfl
    simp only [hstep, hhas]
    split <;> rfl
  | value _ hstep => rw [hstep, hstep, d.takeValue_withUrl url pending word]

end

theorem run_withUrl {words : List String} (h : ∀ word ∈ words, isUrl word = false)
    (pending : Pending) (d : Draft) (url : Option String) :
    run pending { d with url } words =
      ((run pending d words).1, { (run pending d words).2 with url }) := by
  induction words generalizing pending d with
  | nil => rfl
  | cons word words ih =>
    obtain ⟨hword, hwords⟩ := List.forall_mem_cons.1 h
    rw [run_cons, run_cons, step_withUrl d url pending hword]
    exact ih hwords _ _

/-! ### A URL among them -/

theorem unglue_url {url : String} (hurl : isUrl url = true) : unglue [url] = [url] :=
  unglue_eq_self (List.forall_mem_singleton.2 (unglued_of_isUrl hurl))

/-- With the URL among them, the words say what they say without it, and the URL. -/
theorem run_url_among {front back : List String} {url : String} (hurl : isUrl url = true)
    (h : ∀ word ∈ unglue back, isUrl word = false) (pending : Pending) (d : Draft) :
    run pending d (unglue (front ++ url :: back)) =
      ((run pending d (unglue (front ++ back))).1,
        { (run pending d (unglue (front ++ back))).2 with url := some url }) := by
  rw [unglue_append, unglue_cons, unglue_url hurl, unglue_append, run_append,
    List.singleton_append, run_cons, step_url _ _ hurl, run_append]
  exact run_withUrl h _ _ _

/-- **The URL may stand anywhere** among words that are no URLs, glued methods included: the machine
waits for the same in the end, and the draft is the same. -/
theorem run_url_anywhere {front back before after : List String} {url : String}
    (hurl : isUrl url = true) (h : ∀ word ∈ unglue (front ++ back), isUrl word = false)
    (hwords : before ++ after = front ++ back) (pending : Pending) (d : Draft) :
    run pending d (unglue (before ++ url :: after)) =
      run pending d (unglue (front ++ url :: back)) := by
  have hback {front back : List String}
      (h : ∀ word ∈ unglue (front ++ back), isUrl word = false) :
      ∀ word ∈ unglue back, isUrl word = false := by
    rw [unglue_append] at h
    exact (List.forall_mem_append.1 h).2
  rw [run_url_among hurl (hback (hwords ▸ h)), run_url_among hurl (hback h), hwords]

/-- Between a flag and its value, and behind a glued method. -/
theorem run_url_anywhere_amid :
    isUrl "HTTPS://[::1]/" = true ∧
      (∀ word ∈ unglue ["-XPUT", "-H", "A:b", "-I", "-X"], isUrl word = false) ∧
      run .cookie {} (unglue (["-XPUT", "-H"] ++ "HTTPS://[::1]/" :: ["A:b", "-I", "-X"])) =
        run .cookie {} (unglue ([] ++ "HTTPS://[::1]/" :: ["-XPUT", "-H", "A:b", "-I", "-X"])) := by
  have hurl : isUrl "HTTPS://[::1]/" = true := by decide
  have hwords : ∀ word ∈ unglue ["-XPUT", "-H", "A:b", "-I", "-X"], isUrl word = false := by decide
  exact ⟨hurl, hwords, run_url_anywhere hurl hwords rfl .cookie {}⟩

/-- A glued method that is a URL is no URL as long as it is glued. -/
theorem not_anywhere :
    ¬∀ (front back before after : List String) (url : String) (pending : Pending) (d : Draft),
      isUrl url = true → (∀ word ∈ front ++ back, isUrl word = false) →
      before ++ after = front ++ back →
      run pending d (unglue (before ++ url :: after)) =
        run pending d (unglue (front ++ url :: back)) := by
  intro h
  have hsame := h [] ["-Xhttps://b.test/"] ["-Xhttps://b.test/"] [] "https://a.test/" .none {}
    (by decide) (by decide) rfl
  exact absurd hsame (by decide)

end Courier.Command
