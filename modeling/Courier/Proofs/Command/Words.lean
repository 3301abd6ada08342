import Mathlib.Data.List.Infix
import Courier.Command.Export
import Courier.Proofs.Shell.Words

/-! The words of an exported command.

`spokenWords` lists what the command of a request has to say, one text after the other, without
a thought of how a shell reads it. `words_render`: a shell reads the command as exactly these
words, whatever characters the request and the cookies have. -/

namespace Courier.Command
open Shell (Spells)

/-! ### What a command has to say -/

/-- The header lines: the cookies whose domain is part of the host, in one line; the enabled
headers; the content type, if the request has one and no enabled header gives it. -/
def spokenHeaders (r : Http.Request) (host : List Char) (cookies : List Http.Cookie) :
    List String :=
  let sent := cookies.filter fun cookie => cookie.domain.toList <:+: host
  let enabled := r.headers.filter (·.enabled)
  (if sent = [] then []
    else ["Cookie: " ++ "; ".intercalate (sent.map fun cookie => cookie.name ++ "=" ++ cookie.value)])
  ++ enabled.map (fun header => header.key ++ ": " ++ header.value)
  ++ (if r.contentType ≠ "" ∧ ∀ header ∈ enabled, Http.isContentType header.key = false then
      ["Content-Type: " ++ r.contentType]
    else [])

/-- The words of the command: the program and the method, the body if there is one, the header
lines, the address. -/
def spokenWords (r : Http.Request) (host : List Char) (cookies : List Http.Cookie) : List String :=
  ["curl", "-v", "-X" ++ r.method.name]
  ++ (if r.body = "" then [] else ["-d", dataText r])
  ++ (spokenHeaders r host cookies).flatMap (fun line => ["-H", line])
  ++ [fullUri r]

theorem cookieLine?_eq (host : List Char) (cookies : List Http.Cookie) :
    (cookieLine? host cookies).toList =
      let sent := cookies.filter fun cookie => cookie.domain.toList <:+: host
      if sent = [] then []
      else ["Cookie: " ++
        "; ".intercalate (sent.map fun cookie => cookie.name ++ "=" ++ cookie.value)] := by
  have hsent : cookies.filter (fun cookie => Text.occursIn cookie.domain.toList host) =
      cookies.filter fun cookie => cookie.domain.toList <:+: host := by
    congr 1
    funext cookie
    rw [Bool.eq_iff_iff, Text.occursIn_iff, decide_eq_true_iff]
  rw [cookieLine?, hsent]
  cases cookies.filter fun cookie => cookie.domain.toList <:+: host with
  | nil => rfl
  | cons cookie sent => rfl

theorem headerLines_eq (r : Http.Request) (host : List Char) (cookies : List Http.Cookie) :
    headerLines r host cookies = spokenHeaders r host cookies := by
  rw [headerLines, spokenHeaders, cookieLine?_eq]
  congr 1
  congr 1
  simp only [Bool.not_eq_true', List.any_eq_false, Bool.not_eq_true]

theorem map_snd_wordsOf (r : Http.Request) (host : List Char) (cookies : List Http.Cookie) :
    (wordsOf r host cookies).map Prod.snd = spokenWords r host cookies := by
  rw [wordsOf, spokenWords, headerLines_eq]
  simp only [List.map_append, List.map_flatMap]
  congr 3
  by_cases hb : r.body = "" <;> simp [Http.Request.hasBody, hb]

/-! ### What a shell reads -/

/-- A word as it stands in the command. -/
def written (word : Bool × String) : String :=
  if word.1 then Shell.quote word.2 else word.2

theorem spells_quoted (word : String) : Spells (written (true, word)).toList word.toList := by
  rw [written, if_pos rfl, Shell.quote, String.toList_ofList]
  exact Shell.spells_quoteChars word.toList

theorem spells_method (method : Http.Method) :
    Spells ("-X" ++ method.name).toList ("-X" ++ method.name).toList := by
  cases method <;> exact Shell.spells_plain (by decide) (by decide) (by decide)

/-- Every word of the command is read as it is meant: the free ones are quoted, and the others
are plain. -/
theorem spells_wordsOf (r : Http.Request) (host : List Char) (cookies : List Http.Cookie) :
    ∀ word ∈ wordsOf r host cookies, Spells (written word).toList word.2.toList := by
  have plain (word : String) (hne : word.toList ≠ []) (hhead : word.toList.head? ≠ some '#')
      (h : word.toList.all Shell.isPlain = true) :
      Spells (written (false, word)).toList word.toList := Shell.spells_plain hne hhead h
  have hdata : Spells (written (false, "-d")).toList "-d".toList :=
    plain "-d" (by decide) (by decide) (by decide)
  have hheader : Spells (written (false, "-H")).toList "-H".toList :=
    plain "-H" (by decide) (by decide) (by decide)
  simp only [wordsOf, List.forall_mem_append, List.forall_mem_cons, List.forall_mem_flatMap]
  refine ⟨⟨⟨⟨?_, ?_, spells_method r.method, nofun⟩, ?_⟩, ?_⟩, spells_quoted _, nofun⟩
  · exact plain "curl" (by decide) (by decide) (by decide)
  · exact plain "-v" (by decide) (by decide) (by decide)
  · split
    · exact List.forall_mem_cons.2 ⟨hdata, List.forall_mem_cons.2 ⟨spells_quoted _, nofun⟩⟩
    · exact nofun
  · exact fun line _ => ⟨hheader, spells_quoted line, nofun⟩

theorem words?_wordsOf (r : Http.Request) (host : List Char) (cookies : List Http.Cookie) :
    Shell.words? (" ".intercalate ((wordsOf r host cookies).map written)) =
      some (spokenWords r host cookies) := by
  rw [← map_snd_wordsOf]
  exact Shell.words?_intercalate (spells_wordsOf r host cookies)

/-- A command is the line of its words as they are written. -/
theorem render_eq_ok_iff {r : Http.Request} {cookies : List Http.Cookie} {text : String} :
    render r cookies = .ok text ↔ ∃ url, Url.parse? (fullUri r).toList = some url ∧
      " ".intercalate ((wordsOf r url.hostPort cookies).map written) = text := by
  rw [render]
  cases Url.parse? (fullUri r).toList with
  | none => simp
  | some url =>
    simp only [Except.ok.injEq, Option.some.injEq, exists_eq_left']
    rfl

end Courier.Command
