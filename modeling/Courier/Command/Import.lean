import Courier.Shell.Words
import Courier.Url.Basic
import Courier.Url.Percent
import Courier.Command.Layout
import Courier.Command.Options

/-! The request that a pasted command makes. -/

namespace Courier.Command

/-- Why a command and a request cannot be turned into one another. -/
inductive Error where
  /-- The text is no command, or one without a URL. -/
  | invalidText
  /-- The address of the request, with its query, is no URL. -/
  | invalidUrl (uri : String)
  deriving DecidableEq, Repr

/-- The wording of an error. -/
def Error.message : Error → String
  | .invalidText => "invalid curl text"
  | .invalidUrl uri => s!"Invalid URL: {uri}"

/-- The content type of a draft: the last header of that name, or JSON if there is none
and the body looks like it, without its parameters. -/
def contentTypeOf (d : Draft) : String :=
  let given := ((d.headers.filter fun (name, _) => Http.isContentType name).getLast?.map (·.2)).getD ""
  let type := if given = "" ∧ Http.looksLikeJson d.body.toList then Http.jsonType else given
  String.ofList (type.toList.takeWhile (· ≠ ';'))

/-- The request of a draft and its URL. The query of the URL becomes a list of pairs. -/
def requestOf (d : Draft) (url : Url) : Http.Request :=
  { method := (Http.Method.ofAnyCase? (Text.upper d.method)).getD .get
    uri := String.ofList (url.origin ++ url.path)
    body := d.body
    contentType := contentTypeOf d
    headers := (d.headers.filter fun (name, _) => !Http.isContentType name).map
      fun (key, value) => { key, value }
    query := (Url.Query.pairs (url.query.getD [])).map fun (key, value) => { key, value } }

/-- The request that the words of a command make. -/
def ofWords (words : List String) : Except Error Http.Request :=
  let (_, d) := run .none {} (unglue words)
  match d.url.bind fun url => Url.parse? url.toList with
  | none => .error .invalidText
  | some url => .ok (requestOf d url)

/-- The request that a pasted command makes. -/
def parse (text : String) : Except Error Http.Request :=
  let line := normalize text
  if isCommand line then
    match Shell.words? line with
    | none => .error .invalidText
    | some words => ofWords words
  else .error .invalidText

end Courier.Command
