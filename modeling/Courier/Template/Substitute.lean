import Courier.Template.Evaluate

/-! Putting the values of calls into texts and requests.

Calls are evaluated from left to right, one after the other on one source of random words,
and each value takes the place of its call as it is: what it contains is never searched
for calls. The first call without a value ends the substitution. -/

namespace Courier.Template

/-- A failed substitution. -/
structure Failure where
  error : Error
  /-- The text with the values of the calls before the failed one, unless the settings
  want nothing then. -/
  soFar : Option String
  deriving DecidableEq, Repr

/-- The text that parts come from. -/
def sources (ps : List Part) : List Char :=
  ps.flatMap Part.source

/-- A way to find the values of calls. It may keep a state, such as what is left of a source
of random words. -/
abbrev Evaluator (σ : Type) := Call → σ → Except Error Value × σ

/-- The text with the values of its calls. A failure comes with the text as far as it has
been filled in, and the rest of it unchanged. -/
def fill {σ : Type} (evaluate : Evaluator σ) :
    List Part → σ → Except (Error × List Char) (List Char) × σ
  | [], s => (.ok [], s)
  | .call call :: ps, s =>
    match evaluate call s with
    | (.error e, s) => (.error (e, sources (.call call :: ps)), s)
    | (.ok v, s) =>
      match fill evaluate ps s with
      | (.ok rest, s) => (.ok (v.toText.toList ++ rest), s)
      | (.error (e, rest), s) => (.error (e, v.toText.toList ++ rest), s)
  | p :: ps, s =>
    match fill evaluate ps s with
    | (.ok rest, s) => (.ok (p.source ++ rest), s)
    | (.error (e, rest), s) => (.error (e, p.source ++ rest), s)

/-- A text with the values of its calls, each found as `evaluate` does. -/
def substituteWith {σ : Type} (evaluate : Evaluator σ) (settings : Settings)
    (collection text : String) (s : σ) : Except Failure String × σ :=
  match fill evaluate (parts settings.scanMode collection text) s with
  | (.ok filled, s) => (.ok (String.ofList filled), s)
  | (.error (e, rest), s) =>
    let soFar := if settings.rollbackOnError then none else some (String.ofList rest)
    (.error ⟨e, soFar⟩, s)

/-- A text with the values of its calls. -/
def substitute (c : Context) (collection text : String) : Run Failure String :=
  substituteWith (Call.evaluate c) c.settings collection text

/-! ### Bodies -/

/-- Whether a line is a comment: two slashes stand first in it. -/
def isComment (line : List Char) : Bool :=
  "//".toList.isPrefixOf (Text.trimStart line)

/-- A text without its lines of comments. -/
def stripComments (cs : List Char) : List Char :=
  ['\n'].intercalate ((Text.lines cs).filter fun line => !isComment line)

/-- A body as it is searched for calls: without comments, if it looks like JSON and the
settings want it so. -/
def prepareBody (settings : Settings) (body : String) : String :=
  if settings.stripJsonComments ∧ Http.looksLikeJson (Text.trim body.toList) then
    String.ofList (stripComments body.toList)
  else body

/-- A body with the values of its calls. -/
def substituteBody (c : Context) (collection body : String) : Run Failure String :=
  substitute c collection (prepareBody c.settings body)

/-! ### Requests -/

/-- Parameters after a substitution in their values, and why it ended early if it did: the
parameters from there on are unchanged. -/
def substituteParameters (c : Context) (collection : String) (params : List Http.Parameter)
    (s : Random.Source) : (List Http.Parameter × Option Failure) × Random.Source :=
  match params with
  | [] => (([], none), s)
  | p :: rest =>
    match substitute c collection p.value s with
    | (.error failure, s) => ((p :: rest, some failure), s)
    | (.ok value, s) =>
      let ((rest, failure), s) := substituteParameters c collection rest s
      (({ p with value } :: rest, failure), s)

/-- Parameters with the values of all calls in their values. -/
def resolveParameters (c : Context) (collection : String) (params : List Http.Parameter) :
    Run Failure (List Http.Parameter) := fun s =>
  match substituteParameters c collection params s with
  | ((params, none), s) => (.ok params, s)
  | ((_, some failure), s) => (.error failure, s)

/-- A run after another one, if that has a result. -/
def Run.andThen {ε α β : Type} (first : Run ε α) (second : α → Run ε β) : Run ε β := fun s =>
  match first s with
  | (.ok a, s) => second a s
  | (.error e, s) => (.error e, s)

/-- A request with the values of the calls in its address, its body, its query and its
headers, in this order. -/
def resolve (c : Context) (collection : String) (r : Http.Request) : Run Failure Http.Request :=
  (substitute c collection r.uri).andThen fun uri =>
  (substituteBody c collection r.body).andThen fun body =>
  (resolveParameters c collection r.query).andThen fun query =>
  (resolveParameters c collection r.headers).andThen fun headers s =>
    (.ok { r with uri, body, query, headers }, s)

end Courier.Template
