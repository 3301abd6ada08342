import Courier.Proofs.Http.Body
import Courier.Proofs.Json.Path
import Courier.Template.Evaluate

/-! Looking into responses.

A body is read as JSON only where a header declares it to be, or where it looks like an array or an
object. All bodies into which a path can lead do look like one (`looksLikeJson_of_parse?`), so the
headers make no difference to what is found (`apply_get`). -/

namespace Courier.Template

/-! ### Bodies -/

/-- What a path finds in a body does not depend on whether the body is declared as JSON. -/
theorem get?_content (response : Http.Response) (path : String) :
    response.content.json.bind (·.get? path) =
      (Json.parse? (Text.strip (Utf8.decodeLossy response.body))).bind (·.get? path) := by
  let trimmed := Text.strip (Utf8.decodeLossy response.body)
  show (if response.declaresJson || Http.looksLikeJson trimmed.toList then Json.parse? trimmed
    else none).bind (·.get? path) = (Json.parse? trimmed).bind (·.get? path)
  split
  · rfl
  · next hunread =>
    rw [Option.bind_none]
    cases hparse : Json.parse? trimmed with
    | none => rfl
    | some j =>
      cases hj : j.container? with
      | none => exact (Json.get?_eq_none hj path).symm
      | some container =>
        obtain ⟨document, hdocument, hvalue⟩ := Option.bind_eq_some_iff.1 hparse
        have hlooks := Http.looksLikeJson_of_parse? hdocument
          ((Json.Document.container?_of_value? hvalue).trans hj)
        have htrimmed : Text.trim trimmed.toList = trimmed.toList := by
          rw [show trimmed.toList = Text.trim _ from String.toList_ofList]
          exact Text.trim_eq_self (fun _ => Text.isBlank_of_head?_trim)
            fun _ => Text.isBlank_of_getLast?_trim
        exact absurd (by simp [htrimmed ▸ hlooks]) hunread

/-! ### Looking -/

/-- What stands at a path in a body that is read as JSON, whatever its headers say. -/
def foundAt (body : List UInt8) (path : String) : Value :=
  match (Json.parse? (Text.strip (Utf8.decodeLossy body))).bind (·.get? path) with
  | none => .null
  | some found => .json found

/-- What a look finds: what stands at the path in the latest response, or the value itself if there
is none. -/
def Context.found (c : Context) (id path : String) (v : Value) : Value :=
  match c.latest id with
  | none => v
  | some response => foundAt response.body path

theorem lookInto_of_parameters {v : Value} {id path : String}
    (h : getParameters? v.toText = some (id, path)) (c : Context) :
    lookInto c v = .ok (c.found id path v) := by
  rw [lookInto, h, Context.found]
  dsimp only
  cases c.latest id with
  | none => rfl
  | some response =>
    dsimp only
    rw [get?_content, foundAt]
    cases (Json.parse? (Text.strip (Utf8.decodeLossy response.body))).bind (·.get? path) <;> rfl

/-- A text that stands by itself between commas. -/
structure IsParameter (text : String) : Prop where
  comma : ',' ∉ text.toList
  stripped : Text.strip text = text

theorem getParameters?_eq {id path : String} (hid : IsParameter id) (hpath : IsParameter path) :
    getParameters? (id ++ "," ++ path) = some (id, path) := by
  have hsplit : Text.split ',' (id ++ "," ++ path) = [id, path] := by
    have hchars : (id ++ "," ++ path).toList = id.toList ++ ',' :: path.toList := by simp
    rw [Text.split, hchars, Text.splitOn_eq, List.splitOn_append_cons_self,
      List.splitOn_eq_singleton hid.comma, List.splitOn_eq_singleton hpath.comma]
    simp
  rw [getParameters?, hsplit, List.map_cons, List.map_cons, hid.stripped, hpath.stripped]
  rfl

/-- **Headers make no difference to what is found in a response.** -/
theorem apply_get {c : Context} {response : Http.Response} {id path : String} {v : Value}
    (hlatest : c.latest id = some response) (hid : IsParameter id) (hpath : IsParameter path)
    (hv : v.toText = id ++ "," ++ path) (collection : String) (s : Random.Source) :
    Function.apply c collection .get v s = (.ok (foundAt response.body path), s) ∧
      ∀ (other : Context) (another : Http.Response), other.latest id = some another →
        another.body = response.body →
          Function.apply other collection .get v s = Function.apply c collection .get v s := by
  have hlook {c : Context} {response : Http.Response} (hlatest : c.latest id = some response) :
      lookInto c v = .ok (foundAt response.body path) := by
    rw [lookInto_of_parameters (hv ▸ getParameters?_eq hid hpath), Context.found, hlatest]
  have happly {c : Context} {response : Http.Response} (hlatest : c.latest id = some response) :
      Function.apply c collection .get v s = (.ok (foundAt response.body path), s) := by
    rw [Function.apply, hlook hlatest]
  refine ⟨happly hlatest, fun other another hanother hbody => ?_⟩
  rw [happly hanother, happly hlatest, hbody]

/-- A response that says of its body both that it is JSON and that it is not. -/
def ambiguous : Http.Response where
  api := "r1"
  status := 200
  headers := [("CONTENT-TYPE", ["text/plain"]), ("Content-Type", ["application/json"])]
  body := Utf8.bytes "\u00a0\x7b\"a\": [\x7b\"b\": \"é\"\x7d] \x7d\n"
  latency := 1

def ambiguousContext : Context where
  listing := ⟨fun _ => .ok [], fun _ _ => .ok []⟩
  latest := fun id => if id = "r1" then some ambiguous else none
  files := fun _ _ => .error .notFound
  picked := none
  seconds := 0
  settings := .default

theorem apply_get_ambiguous :
    Function.apply ambiguousContext "c1" .get (.list ["r1", "a[0].b"]) (.ofWords []) =
        (.ok (foundAt ambiguous.body "a[0].b"), .ofWords []) ∧
      (foundAt ambiguous.body "a[0].b").toText = "é" := by
  have hlatest : ambiguousContext.latest "r1" = some ambiguous := by rfl
  have hid : IsParameter "r1" := ⟨by decide, by decide⟩
  have hpath : IsParameter "a[0].b" := ⟨by decide, by decide⟩
  have hv : (Value.list ["r1", "a[0].b"]).toText = "r1" ++ "," ++ "a[0].b" := by decide
  exact ⟨(apply_get hlatest hid hpath hv "c1" (.ofWords [])).1, by decide +kernel⟩

end Courier.Template
