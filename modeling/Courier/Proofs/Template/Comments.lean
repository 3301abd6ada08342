import Courier.Proofs.Http.Body
import Courier.Proofs.Json.Lines
import Courier.Proofs.Template.Written
import Courier.Template.Substitute

/-! Comments in the bodies of requests.

A body that looks like JSON loses the lines that begin with two slashes, without being read as JSON.
In the text of an array or an object there are no such lines (`isComment_of_mem_lines`), and the
ones put between its lines all go, whatever stands in them (`Commented.stripComments_eq`). So the
body that is searched for calls is the same as without comments, and it is the document as it was
written but for its line ends (`substituteBody_commented`). -/

namespace Courier.Template

open Text (plainFeeds withoutLastFeed)

/-! ### Lines that are comments -/

theorem isComment_withoutReturn {line : List Char} (h : "//".toList <+: Text.trim line) :
    isComment (Text.withoutReturn line) = true := by
  rw [← Text.trim_withoutReturn] at h
  exact List.isPrefixOf_iff_prefix.2 (h.trans (Text.trim_prefix_trimStart _))

/-- What can be cut into tokens does not begin with a comment. -/
theorem isComment_of_all? {line cs : List Char} {tokens : List Json.Token} (hline : line <+: cs)
    (h : Json.Token.all? cs = some tokens) : isComment line = false := by
  rw [Bool.eq_false_iff]
  intro hcomment
  obtain ⟨back, rfl⟩ := hline
  obtain ⟨rest, hrest⟩ := List.isPrefixOf_iff_prefix.1 hcomment
  have hne : Text.trimStart line ≠ [] := fun hnil => by simp [hnil] at hrest
  refine Json.Token.head?_trimStart h ?_
  rw [Text.trimStart_append hne, ← hrest]
  rfl

theorem isComment_of_mem_lines {cs : List Char} {tokens : List Json.Token}
    (h : Json.Token.all? cs = some tokens) : ∀ line ∈ Text.lines cs, isComment line = false := by
  induction cs using Text.lines_induction generalizing tokens with
  | last cs hcs =>
    intro line hline
    by_cases hne : cs = []
    · subst hne
      cases hline
    · rw [Text.lines_of_notMem hcs hne, List.mem_singleton] at hline
      exact isComment_of_all? (hline ▸ List.prefix_rfl) h
  | feed line cs hline ih =>
    rw [Text.lines_append_feed hline, List.forall_mem_cons]
    obtain ⟨behind, hbehind⟩ := Json.Token.exists_all?_of_feed h
    have hfirst : Text.withoutReturn line <+: line ++ '\n' :: cs :=
      (Text.withoutReturn_prefix_self line).trans (List.prefix_append ..)
    exact ⟨isComment_of_all? hfirst h, ih hbehind⟩

/-- A text that can be cut into tokens has no comments to lose. -/
theorem stripComments_of_all? {cs : List Char} {tokens : List Json.Token}
    (h : Json.Token.all? cs = some tokens) :
    stripComments cs = withoutLastFeed (plainFeeds cs) := by
  have hkept : (Text.lines cs).filter (!isComment ·) = Text.lines cs :=
    List.filter_eq_self.2 fun line hline => by simp [isComment_of_mem_lines h line hline]
  rw [stripComments, hkept, Text.intercalate_lines]

/-! ### Lines put between others -/

/-- The second text is the first with comments put before some of its lines, but not behind the last
line that is not blank. -/
inductive Inserted : List Char → List Char → Prop
  | rest {cs} (h : ∃ c ∈ cs, Text.isBlank c = false) : Inserted cs cs
  | behind (line) {cs ds} : Inserted cs ds → Inserted (line ++ '\n' :: cs) (line ++ '\n' :: ds)
  /-- The line may have a carriage return at its end. -/
  | comment {line cs ds} (hline : '\n' ∉ line) (hcomment : "//".toList <+: Text.trim line) :
    Inserted cs ds → Inserted cs (line ++ '\n' :: ds)

/-- The second text is the first with comments between its lines: behind the first one that is not
blank and before the last one. -/
inductive Commented : List Char → List Char → Prop
  | none (cs) : Commented cs cs
  | between {front cs ds} (h : ∃ c ∈ front, Text.isBlank c = false) :
    Inserted cs ds → Commented (front ++ '\n' :: cs) (front ++ '\n' :: ds)

theorem Inserted.filter_lines {cs ds : List Char} (h : Inserted cs ds) :
    (Text.lines ds).filter (!isComment ·) = (Text.lines cs).filter (!isComment ·) := by
  induction h with
  | rest => rfl
  | behind line _ ih =>
    rw [Text.lines_append, List.filter_append, ih, ← List.filter_append, ← Text.lines_append]
  | comment hline hcomment _ ih =>
    have hdropped := isComment_withoutReturn hcomment
    rw [Text.lines_append_feed hline, List.filter_cons_of_neg (by simp [hdropped]), ih]

theorem Commented.stripComments_eq {cs ds : List Char} (h : Commented cs ds) :
    stripComments ds = stripComments cs := by
  cases h with
  | none => rfl
  | between _ hinserted =>
    rw [stripComments, Text.lines_append, List.filter_append, hinserted.filter_lines,
      ← List.filter_append, ← Text.lines_append, stripComments]

theorem getLast?_filter_behind {cs : List Char} {c : Char}
    (h : (cs.filter (!Text.isBlank ·)).getLast? = some c) (line : List Char) :
    ((line ++ '\n' :: cs).filter (!Text.isBlank ·)).getLast? = some c := by
  rw [List.filter_append, List.filter_cons_of_neg (by decide), List.getLast?_append, h,
    Option.some_or]

theorem Inserted.getLast?_filter {cs ds : List Char} (h : Inserted cs ds) :
    ∃ c, (cs.filter (!Text.isBlank ·)).getLast? = some c ∧
      (ds.filter (!Text.isBlank ·)).getLast? = some c := by
  induction h with
  | @rest cs h =>
    have hne : cs.filter (!Text.isBlank ·) ≠ [] := by simpa [List.filter_eq_nil_iff] using h
    exact ⟨_, List.getLast?_eq_some_getLast hne, List.getLast?_eq_some_getLast hne⟩
  | behind line _ ih =>
    obtain ⟨c, hcs, hds⟩ := ih
    exact ⟨c, getLast?_filter_behind hcs line, getLast?_filter_behind hds line⟩
  | comment _ _ _ ih =>
    obtain ⟨c, hcs, hds⟩ := ih
    exact ⟨c, hcs, getLast?_filter_behind hds _⟩

/-- A body looks the same with comments as without. -/
theorem Commented.looksLikeJson_eq {cs ds : List Char} (h : Commented cs ds) :
    Http.looksLikeJson (Text.trim ds) = Http.looksLikeJson (Text.trim cs) := by
  cases h with
  | none => rfl
  | @between front _ _ hfront hinserted =>
    have hne : front.filter (!Text.isBlank ·) ≠ [] := by
      simpa [List.filter_eq_nil_iff] using hfront
    obtain ⟨c, hcs, hds⟩ := hinserted.getLast?_filter
    refine Http.looksLikeJson_trim_congr ?_ ?_
    · rw [List.filter_append, List.filter_append, List.head?_append_of_ne_nil _ hne,
        List.head?_append_of_ne_nil _ hne]
    · rw [getLast?_filter_behind hcs, getLast?_filter_behind hds]

/-! ### Bodies -/

/-- A body with the values of its calls, each found as `evaluate` does. -/
def substituteBodyWith {σ : Type} (evaluate : Evaluator σ) (settings : Settings)
    (collection body : String) (s : σ) : Except Failure String × σ :=
  substituteWith evaluate settings collection (prepareBody settings body) s

/-- **Comments never alter a JSON document.** Let the text write an array or an object, and let
there be comments between its lines, or none: lines whose text begins with two slashes once it is
trimmed, whatever else stands in them. If the settings want bodies without comments, what is left of
the commented body is the text itself, but that each of its lines ends with a line feed alone and
the last one with nothing; so it writes the same document. Every way of evaluating calls makes of
the commented body what it makes of that, and evaluates only calls that stand there, so none in a
comment. And if there are none, what is left is the result, and nothing at all is evaluated. -/
theorem substituteBody_commented {c : Context} {text commented : String}
    {document : Json.Document} {container : Json.Container}
    (hstrip : c.settings.stripJsonComments = true)
    (hparse : Json.Document.parse? text = some document)
    (hdocument : document.container? = some container)
    (hcommented : Commented text.toList commented.toList) :
    let left := String.ofList (withoutLastFeed (plainFeeds text.toList))
    Json.Document.parse? left = some document ∧ Json.parse? left = Json.parse? text ∧
      prepareBody c.settings commented = left ∧
      (∀ (σ : Type) (evaluate : Evaluator σ) (collection : String) (s : σ),
        substituteBodyWith evaluate c.settings collection commented s =
            substituteWith evaluate c.settings collection left s ∧
          (substituteBodyWith (logged evaluate) c.settings collection commented (s, [])).2.2 <+:
            (scan c.settings.scanMode collection left).calls) ∧
      ∀ collection : String, (scan c.settings.scanMode collection left).calls = [] →
        (∀ (σ : Type) (evaluate : Evaluator σ) (s : σ),
          substituteBodyWith evaluate c.settings collection commented s = (.ok left, s)) ∧
        ∀ s, substituteBody c collection commented s = (.ok left, s) := by
  intro left
  obtain ⟨tokens, htokens, hof⟩ := Option.bind_eq_some_iff.1 hparse
  have hleft : Json.Document.parse? left = some document := by
    rw [Json.Document.parse?, String.toList_ofList, Json.Token.all?_plain htokens, Option.bind_some,
      hof]
  have hlooks : Http.looksLikeJson (Text.trim commented.toList) = true := by
    rw [hcommented.looksLikeJson_eq]
    exact Http.looksLikeJson_of_parse? hparse hdocument
  have hprepared : prepareBody c.settings commented = left := by
    rw [prepareBody, if_pos ⟨hstrip, hlooks⟩, hcommented.stripComments_eq,
      stripComments_of_all? htokens]
  refine ⟨hleft, ?_, hprepared, ?_, fun collection hcalls => ⟨?_, ?_⟩⟩
  · rw [Json.parse?, Json.parse?, hleft, hparse]
  · intro σ evaluate collection s
    rw [substituteBodyWith, substituteBodyWith, hprepared]
    exact ⟨rfl, logged_prefix_calls evaluate c.settings collection left s⟩
  · intro σ evaluate s
    rw [substituteBodyWith, hprepared, substituteWith_of_calls_eq_nil hcalls]
  · intro s
    rw [substituteBody, hprepared, substitute, substituteWith_of_calls_eq_nil hcalls]

/-! ### A body with calls in its comments -/

def plainBody : String :=
  "\x7b\x0d\n\"a\": 1\x0d\n\x7d\x0d\n"

/-- The body with a call that would fail, malformed braces and an empty comment. -/
def annotatedBody : String :=
  "\x7b\x0d\n\t // \x7b\x7bget(x)\x7d\x7d \x7b\x7boops\x7d\x7d\x0d\n\"a\": 1\x0d\n//\n\x7d\x0d\n"

theorem commented_annotatedBody : Commented plainBody.toList annotatedBody.toList := by
  let opening := "\x7b\x0d".toList
  let member := "\"a\": 1\x0d".toList
  let closing := "\x7d\x0d\n".toList
  let calls := "\t // \x7b\x7bget(x)\x7d\x7d \x7b\x7boops\x7d\x7d\x0d".toList
  have hplain : plainBody.toList = opening ++ '\n' :: (member ++ '\n' :: closing) := by decide
  have hannotated : annotatedBody.toList =
      opening ++ '\n' :: (calls ++ '\n' :: (member ++ '\n' :: ("//".toList ++ '\n' :: closing))) := by
    decide
  have hclosing : Inserted closing closing := .rest ⟨'\x7d', by decide, by decide⟩
  have hempty : Inserted closing ("//".toList ++ '\n' :: closing) :=
    .comment (by decide) (by decide) hclosing
  have hcalls : Inserted (member ++ '\n' :: closing)
      (calls ++ '\n' :: (member ++ '\n' :: ("//".toList ++ '\n' :: closing))) :=
    .comment (by decide) (by decide) (hempty.behind member)
  rw [hplain, hannotated]
  exact .between ⟨'\x7b', by decide, by decide⟩ hcalls

theorem substituteBody_annotatedBody :
    ∃ document, Json.Document.parse? plainBody = some document ∧
      Commented plainBody.toList annotatedBody.toList ∧
      Json.Document.parse? "\x7b\n\"a\": 1\n\x7d" = some document ∧
      substituteBody bareContext "c1" annotatedBody (.ofWords []) =
        (.ok "\x7b\n\"a\": 1\n\x7d", .ofWords []) := by
  have hstrip : bareContext.settings.stripJsonComments = true := by rfl
  have hcontainer : ((Json.Document.parse? plainBody).bind (·.container?)).isSome = true := by
    decide +kernel
  obtain ⟨container, hcontainer⟩ := Option.isSome_iff_exists.1 hcontainer
  obtain ⟨document, hparse, hdocument⟩ := Option.bind_eq_some_iff.1 hcontainer
  have hleft : String.ofList (withoutLastFeed (plainFeeds plainBody.toList)) =
      "\x7b\n\"a\": 1\n\x7d" := by decide
  obtain ⟨hdocument', -, -, -, hresult⟩ :=
    substituteBody_commented hstrip hparse hdocument commented_annotatedBody
  rw [hleft] at hdocument' hresult
  exact ⟨document, hparse, commented_annotatedBody, hdocument',
    (hresult "c1" (by decide +kernel)).2 (.ofWords [])⟩

end Courier.Template
