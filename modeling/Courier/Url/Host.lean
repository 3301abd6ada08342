import Courier.Text.Blank
import Courier.Url.Address
import Courier.Url.DomainName
import Courier.Url.Percent

/-! The hosts of URLs. -/

namespace Courier.Url

inductive Host where
  /-- A name in ASCII. -/
  | domain (name : List Char)
  | v4 (address : Nat)
  /-- An address of eight pieces. -/
  | v6 (pieces : List Nat)
  deriving DecidableEq, Repr

namespace Host

/-- The text of a host in a URL. -/
def render : Host → List Char
  | .domain name => name
  | .v4 address => V4.render address
  | .v6 pieces => V6.render pieces

/-- The characters that no host has. -/
def isForbidden (c : Char) : Bool :=
  " #/:<>?@[\\]^|\x00\t\n\x0d".toList.contains c

/-- The characters that no domain name has. -/
def isForbiddenInDomain (c : Char) : Bool :=
  isForbidden c || c.toNat < 0x20 || c = '%' || c.toNat = 0x7F

/-- The address between brackets. -/
def bracketed? (cs : List Char) : Option Host :=
  if cs.getLast? = some ']' then (V6.parse? (cs.drop 1).dropLast).map .v6 else none

/-- The host that a text writes where names are international and addresses count. -/
def parse? (cs : List Char) : Option Host :=
  if cs.head? = some '[' then bracketed? cs
  else
    match Utf8.decode (Percent.decode (Utf8.encode cs)) with
    | .error _ => none
    | .ok name =>
      match DomainName.toAscii? name.toList with
      | none => none
      | some name =>
        if name.isEmpty || name.any isForbiddenInDomain then none
        else if V4.endsInNumber name then (V4.parse? name).map .v4
        else some (.domain name)

/-- The host that a text writes where it is a name of any kind. -/
def parseAny? (cs : List Char) : Option Host :=
  if cs.head? = some '[' then bracketed? cs
  else if cs.any isForbidden then none
  else some (.domain (Percent.encode Percent.isPrintable cs))

end Host

end Courier.Url
