import Courier.Json.Printer
import Courier.Command.Import

/-! The command that makes a request. -/

namespace Courier.Command

/-- A parameter as a pair of a query: the value is encoded, the key stands as it is. -/
def pairText (p : Http.Parameter) : List Char :=
  p.key.toList ++ '=' :: Url.Percent.encode Url.Percent.keptInComponent p.value.toList

/-- The enabled parameters as a query. -/
def queryText (params : List Http.Parameter) : List Char :=
  ['&'].intercalate ((params.filter (·.enabled)).map pairText)

/-- The address of a request with its query behind it. -/
def fullUri (r : Http.Request) : String :=
  if r.query.any (·.enabled) then
    let mark := if r.uri.toList.contains '?' then '&' else '?'
    String.ofList (r.uri.toList ++ mark :: queryText r.query)
  else r.uri

/-- The cookies that go to a host, as a header line. -/
def cookieLine? (host : List Char) (cookies : List Http.Cookie) : Option String :=
  match cookies.filter fun c => Text.occursIn c.domain.toList host with
  | [] => none
  | sent => some (s!"Cookie: " ++ "; ".intercalate (sent.map fun c => s!"{c.name}={c.value}"))

/-- The header lines of a request: its cookies, its enabled headers and, if none of those
gives one, its content type. -/
def headerLines (r : Http.Request) (host : List Char) (cookies : List Http.Cookie) :
    List String :=
  let enabled := r.headers.filter (·.enabled)
  let type :=
    if r.contentType ≠ "" ∧ !enabled.any (Http.isContentType ·.key) then
      [s!"Content-Type: {r.contentType}"]
    else []
  (cookieLine? host cookies).toList ++ enabled.map (fun h => s!"{h.key}: {h.value}") ++ type

/-- The body of a request as data of a command. JSON is written compactly, and a form that
stands as a JSON list of parameters is written as a query. -/
def dataText (r : Http.Request) : String :=
  if r.contentType = Http.jsonType then
    match Json.parse? r.body with
    | some value => value.render
    | none => r.body
  else if r.contentType = Http.formType then
    match (Json.Document.parse? r.body).bind
        (Json.Document.list? Http.Parameter.ofDocument?) with
    | some params => String.ofList (queryText params)
    | none => r.body
  else r.body

/-- The words of the command for a request, each told whether it is to be quoted. -/
def wordsOf (r : Http.Request) (host : List Char) (cookies : List Http.Cookie) :
    List (Bool × String) :=
  [(false, "curl"), (false, "-v"), (false, "-X" ++ r.method.name)]
    ++ (if r.hasBody then [(false, "-d"), (true, dataText r)] else [])
    ++ (headerLines r host cookies).flatMap (fun line => [(false, "-H"), (true, line)])
    ++ [(true, fullUri r)]

/-- The command that makes a request with cookies. -/
def render (r : Http.Request) (cookies : List Http.Cookie) : Except Error String :=
  let uri := fullUri r
  match Url.parse? uri.toList with
  | none => .error (.invalidUrl uri)
  | some url =>
    let words := wordsOf r url.hostPort cookies
    .ok (" ".intercalate (words.map fun (quoted, word) => if quoted then Shell.quote word else word))

end Courier.Command
