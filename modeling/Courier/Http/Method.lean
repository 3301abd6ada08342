import Courier.Text.Casing

/-! The methods of HTTP requests. -/

namespace Courier.Http

inductive Method where
  | get
  | post
  | put
  | patch
  | delete
  | options
  | head
  deriving DecidableEq, Repr, Inhabited

namespace Method

def name : Method → String
  | .get => "GET"
  | .post => "POST"
  | .put => "PUT"
  | .patch => "PATCH"
  | .delete => "DELETE"
  | .options => "OPTIONS"
  | .head => "HEAD"

def all : List Method :=
  [.get, .post, .put, .patch, .delete, .options, .head]

/-- The method of exactly this name. -/
def ofName? (s : String) : Option Method :=
  all.find? (·.name = s)

/-- The method of a name in any letter case. -/
def ofAnyCase? (s : String) : Option Method :=
  ofName? (Text.upper s)

end Method

end Courier.Http
