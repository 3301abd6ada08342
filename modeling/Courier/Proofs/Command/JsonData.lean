import Courier.Proofs.Command.Words
import Courier.Proofs.Json.Compact
import Courier.Proofs.Json.Integers

/-! JSON as the data of an exported command.

A JSON body is exported as the compact text of its value. That text has the same value
(`Json.parse?_render_of_parse?`), so exporting it again changes nothing, and the command is the same
(`render_withBody`). `render_jsonBody` follows the data of the command as a shell reads it; a body
that is no JSON is exported as it is. -/

namespace Courier.Command

theorem dataText_of_parse? {r : Http.Request} (htype : r.contentType = Http.jsonType) {j : Json}
    (h : Json.parse? r.body = some j) : dataText r = j.render := by
  rw [dataText, if_pos htype, h]

theorem dataText_of_parse?_eq_none {r : Http.Request} (htype : r.contentType = Http.jsonType)
    (h : Json.parse? r.body = none) : dataText r = r.body := by
  rw [dataText, if_pos htype, h]

/-- Nothing but the data of the command comes from the body. -/
theorem render_withBody {r : Http.Request} {body : String} (hbody : r.body = "" ↔ body = "")
    (hdata : dataText { r with body } = dataText r) (cookies : List Http.Cookie) :
    render { r with body } cookies = render r cookies := by
  have hhas : ({ r with body } : Http.Request).hasBody = r.hasBody := by
    simp [Http.Request.hasBody, hbody]
  have huri : fullUri { r with body } = fullUri r := rfl
  have hwords (host : List Char) : wordsOf { r with body } host cookies = wordsOf r host cookies := by
    rw [wordsOf, hdata, hhas]
    rfl
  simp only [render, huri, hwords]

/-- **A JSON body keeps its value.** The command of a request whose content is JSON gives its body
to a shell as one word, if there is a body. If that is JSON whose numbers are all written as integers,
the word has the same value and no blanks but in strings, and as a body it has the same command. If the
body is no JSON, it is the word. -/
theorem render_jsonBody {r : Http.Request} (htype : r.contentType = Http.jsonType)
    {cookies : List Http.Cookie} {command : String} (h : render r cookies = .ok command) :
    ∃ word rest,
      Shell.words? command = some (["curl", "-v", "-X" ++ r.method.name] ++
        (if r.body = "" then [] else ["-d", word]) ++ rest) ∧
      (∀ j, Json.parse? r.body = some j →
        (∀ numeral ∈ Json.Token.numerals r.body.toList, numeral.IsInteger) →
          Json.parse? word = some j ∧ (∀ c ∈ Json.outside word.toList, Text.isBlank c = false) ∧
            render { r with body := word } cookies = .ok command) ∧
      (Json.parse? r.body = none → word = r.body) := by
  obtain ⟨url, -, hcommand⟩ := render_eq_ok_iff.1 h
  let headers := (spokenHeaders r url.hostPort cookies).flatMap fun line => ["-H", line]
  refine ⟨dataText r, headers ++ [fullUri r], ?_, fun j hj hintegers => ?_,
    dataText_of_parse?_eq_none htype⟩
  · rw [← hcommand, words?_wordsOf, spokenWords]
    simp only [headers, List.append_assoc]
  · have hexact : Json.Exact j := Json.exact_of_parse? hj hintegers
    have hback : Json.parse? j.render = some j := Json.parse?_render_of_parse? hj hexact
    have hdata : dataText r = j.render := dataText_of_parse? htype hj
    let again : Http.Request := { r with body := j.render }
    have hagain : dataText again = j.render :=
      dataText_of_parse? (show again.contentType = Http.jsonType from htype) hback
    have hbody : r.body = "" ↔ j.render = "" :=
      iff_of_false (Json.ne_empty_of_parse? hj) (Json.ne_empty_of_parse? hback)
    rw [hdata]
    refine ⟨hback, Json.isBlank_of_mem_outside hexact, ?_⟩
    rw [render_withBody hbody (hagain.trans hdata.symm), h]

/-- A request whose body has blanks and escapes, a name twice, and names out of order. -/
def unordered : Http.Request where
  method := .post
  uri := "http://[::1]/"
  body := "\x7b\"b\": 1, \"é\": [-20, \x7b\"\\u0001\": \"a \\u0022\"\x7d],\n" ++
    " \"a\": \x7b\x7d, \"b\": 18446744073709551615\x7d"
  contentType := Http.jsonType

/-- Its body as data. -/
def ordered : String :=
  "\x7b\"a\":\x7b\x7d,\"b\":18446744073709551615,\"é\":[-20,\x7b\"\\u0001\":\"a \\\"\"\x7d]\x7d"

theorem render_jsonBody_unordered :
    ∃ command rest j,
      unordered.contentType = Http.jsonType ∧ render unordered [] = .ok command ∧
      Shell.words? command = some (["curl", "-v", "-XPOST"] ++ ["-d", ordered] ++ rest) ∧
      Json.parse? unordered.body = some j ∧ Json.parse? ordered = some j ∧
      (∀ c ∈ Json.outside ordered.toList, Text.isBlank c = false) ∧
      render { unordered with body := ordered } [] = .ok command := by
  let command := "curl -v -XPOST -d '" ++ ordered ++
    "' -H 'Content-Type: application/json' 'http://[::1]/'"
  have hrender : render unordered [] = .ok command := by decide +kernel
  have hspoken : (Shell.words? command).bind (·[4]?) = some ordered := by decide +kernel
  have hvalue : (Json.parse? unordered.body).isSome = true := by decide +kernel
  obtain ⟨j, hj⟩ := Option.isSome_iff_exists.1 hvalue
  obtain ⟨word, rest, hwords, hjson, -⟩ := render_jsonBody rfl hrender
  have hword : word = ordered := by
    rw [hwords] at hspoken
    exact Option.some.inj hspoken
  subst hword
  obtain ⟨hback, hblanks, hagain⟩ := hjson j hj (by decide +kernel)
  exact ⟨command, rest, j, rfl, hrender, hwords, hj, hback, hblanks, hagain⟩

end Courier.Command
