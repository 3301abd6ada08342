import Courier.Proofs.Command.Words
import Courier.Proofs.Url.Appended

/-! The query of an exported command.

Keys stand in a query as they are and values are encoded, so the query of parameters is read back as
these parameters if their keys mean themselves there (`pairs_queryText`). Hence what a command asks
for: the pairs in the address of the request, and behind them its parameters (`asked?_of_render`).
Nothing is promised of other keys, nor of an address that has a fragment, or whose query ends with a
space: `misread_single` has a request for each of them. -/

namespace Courier.Command
open Url (EndsVisibly IsQuery TakesQuery isEdge isKept)

/-! ### Parameters -/

/-- A key that means itself where it stands in a query: no character of it ends the key, the pair
or the query, stands for another one or is taken out, and there are no escapes in it. -/
structure Verbatim (key : String) : Prop where
  plain : ∀ c ∈ key.toList, "&=#+\t\n\x0d".toList.contains c = false
  unescaped : Url.Percent.Unescaped key.toList

theorem Verbatim.notMem {key : String} (h : Verbatim key) {c : Char}
    (hc : "&=#+\t\n\x0d".toList.contains c = true) : c ∉ key.toList :=
  fun hmem => Text.ne_of_class hc (h.plain c hmem) rfl

/-- The characters of an encoded value. -/
def isEncoded (c : Char) : Bool :=
  !isEdge c && c ≠ '&' && c ≠ '#'

theorem isEncoded_of_kept {c : Char} (h : Url.Percent.keptInComponent c = true) :
    isEncoded c = true := by
  have hne (d : Char) (hd : Url.Percent.keptInComponent d = false) : c ≠ d :=
    Text.ne_of_class h hd
  have hedge : isEdge c = false := by
    have hedges : ∀ n < 0x21, Url.Percent.keptInComponent (Char.ofNat n) = false := by decide
    rw [isEdge, decide_eq_false_iff_not]
    intro hle
    exact hne _ (hedges c.toNat (Nat.lt_succ_of_le hle)) (Char.ofNat_toNat c).symm
  simp [isEncoded, hedge, hne '&' (by decide), hne '#' (by decide)]

theorem isEncoded_encode (value : String) :
    ∀ c ∈ Url.Percent.encode Url.Percent.keptInComponent value.toList, isEncoded c = true :=
  Url.Percent.forall_mem_encode (fun _ => isEncoded_of_kept) (by decide) (by decide) value.toList

section
variable {p : Http.Parameter} (h : Verbatim p.key)
include h

theorem pair_pairText : Url.Query.pair (pairText p) = (p.key, p.value) := by
  rw [pairText, Url.Query.pair_of_mark (h.notMem (by decide)),
    Url.Query.decode_eq_self (h.notMem (by decide)) h.unescaped,
    Url.Query.decode_encode (by decide) (by decide)]

theorem notMem_pairText {c : Char} (hkey : "&=#+\t\n\x0d".toList.contains c = true)
    (hmark : c ≠ '=') (hvalue : isEncoded c = false) : c ∉ pairText p := by
  simp only [pairText, List.mem_append, List.mem_cons, not_or]
  exact ⟨h.notMem hkey, hmark, Text.notMem_of_class (isEncoded_encode p.value) hvalue⟩

end

/-- A pair does not end in its key. -/
theorem getLast?_pairText (p : Http.Parameter) :
    ∃ c, (pairText p).getLast? = some c ∧ isEdge c = false := by
  have hvisible : ∀ c ∈ '=' :: Url.Percent.encode Url.Percent.keptInComponent p.value.toList,
      isEdge c = false := by
    refine List.forall_mem_cons.2 ⟨by decide, fun c hc => ?_⟩
    have hencoded := isEncoded_encode p.value c hc
    simp only [isEncoded, Bool.and_eq_true, Bool.not_eq_true'] at hencoded
    exact hencoded.1.1
  refine ⟨_, ?_, hvisible _ (List.getLast_mem (by simp))⟩
  rw [pairText, List.getLast?_append, List.getLast?_eq_some_getLast (by simp), Option.some_or]

/-! ### Queries -/

/-- The pairs that parameters are to send. -/
def sent (params : List Http.Parameter) : List (String × String) :=
  (params.filter (·.enabled)).map fun p => (p.key, p.value)

section
variable {params : List Http.Parameter}
  (h : ∀ p ∈ params.filter (·.enabled), Verbatim p.key)
include h

/-- **The query of parameters is read back as them.** -/
theorem pairs_queryText : Url.Query.pairs (queryText params) = sent params := by
  rw [queryText, sent, Url.Query.pairs_intercalate, List.map_map]
  · exact List.map_congr_left fun p hp => pair_pairText (h p hp)
  · simp only [List.forall_mem_map]
    exact fun p hp => notMem_pairText (h p hp) (by decide) (by decide) (by decide)
  · simp only [List.forall_mem_map]
    exact fun p _ => List.append_ne_nil_of_right_ne_nil _ (List.cons_ne_nil _ _)

theorem isQuery_queryText : IsQuery (queryText params) := by
  have hkept : ∀ c ∈ queryText params, isKept c = true := by
    apply Text.forall_mem_intercalate (p := fun c => isKept c = true) (by decide)
    simp only [List.forall_mem_map]
    intro p hp c hc
    have hne (d : Char) (hd : "&=#+\t\n\x0d".toList.contains d = true) (hmark : d ≠ '=')
        (hvalue : isEncoded d = false) : c ≠ d := by
      rintro rfl
      exact notMem_pairText (h p hp) hd hmark hvalue hc
    simp [isKept, hne '\t', hne '\n', hne '\x0d', show isEncoded '\t' = false by decide,
      show isEncoded '\n' = false by decide, show isEncoded '\x0d' = false by decide]
  refine ⟨?_, hkept, ?_⟩
  · apply Text.notMem_intercalate (by decide)
    simp only [List.forall_mem_map]
    exact fun p hp => notMem_pairText (h p hp) (by decide) (by decide) (by decide)
  · intro c hc
    rw [List.filter_eq_self.2 hkept, queryText] at hc
    rcases List.eq_nil_or_concat (params.filter (·.enabled)) with hnil | ⟨front, p, hconcat⟩
    · rw [hnil] at hc
      cases hc
    · obtain ⟨d, hd, hvisible⟩ := getLast?_pairText p
      rw [hconcat, List.concat_eq_append, List.map_append, List.map_singleton,
        Text.getLast?_intercalate _ hd] at hc
      cases hc
      exact hvisible

end

/-! ### Commands -/

/-- The pairs in the query of the last word of a command, if that is a URL. -/
def asked? (text : String) : Option (List (String × String)) := do
  let words ← Shell.words? text
  let word ← words.getLast?
  let url ← Url.parse? word.toList
  return Url.Query.pairs (url.query.getD [])

/-- A command asks for the query of the whole address. -/
theorem asked?_eq {r : Http.Request} {cookies : List Http.Cookie} {text : String}
    (h : render r cookies = .ok text) : ∃ url, Url.parse? (fullUri r).toList = some url ∧
      asked? text = some (Url.Query.pairs (url.query.getD [])) := by
  obtain ⟨url, hurl, htext⟩ := render_eq_ok_iff.1 h
  have hwords : Shell.words? text = some (spokenWords r url.hostPort cookies) := by
    rw [← htext, words?_wordsOf]
  have hlast : (spokenWords r url.hostPort cookies).getLast? = some (fullUri r) := by
    rw [spokenWords, List.getLast?_concat]
  refine ⟨url, hurl, ?_⟩
  simp only [asked?, hwords, Option.bind_eq_bind, Option.bind_some, hlast, hurl]
  rfl

/-- **A command asks for the pairs in the address of the request and then for the enabled
parameters**, in this order, with keys and values unchanged: whatever the values are, if the keys
mean themselves and the address takes a query. -/
theorem asked?_of_render {r : Http.Request} {cookies : List Http.Cookie} {text : String}
    (h : render r cookies = .ok text)
    (huri : r.query.any (·.enabled) = true → TakesQuery r.uri.toList)
    (hkeys : ∀ p ∈ r.query.filter (·.enabled), Verbatim p.key) :
    asked? text = some (Url.pairsOf r.uri.toList ++ sent r.query) := by
  obtain ⟨url, hurl, hasked⟩ := asked?_eq h
  rw [hasked, Option.some_inj]
  unfold fullUri at hurl
  split at hurl
  · next hsome =>
    rw [String.toList_ofList] at hurl
    rw [Url.pairs_append_query (huri hsome) (isQuery_queryText hkeys) hurl, pairs_queryText hkeys]
  · next hnone =>
    have hsent : sent r.query = [] := by
      simpa [sent, List.filter_eq_nil_iff] using hnone
    rw [hsent, List.append_nil, Url.pairsOf, hurl]

/-- A request whose command asks for something else. -/
def Misread (r : Http.Request) (text : String) : Prop :=
  render r [] = .ok text ∧ asked? text ≠ some (Url.pairsOf r.uri.toList ++ sent r.query)

instance (r : Http.Request) (text : String) : Decidable (Misread r text) :=
  inferInstanceAs (Decidable (_ ∧ _))

/-- A request with one parameter. -/
def single (uri key : String) : Http.Request :=
  { method := .get, uri, query := [{ key, value := "1" }] }

/-- Keys that end the key, the pair or the query, keys in which characters stand for others or are
taken out, an address with a fragment, and one whose query ends with a space. -/
theorem misread_single :
    Misread (single "https://[::1]/s" "a&b") "curl -v -XGET 'https://[::1]/s?a&b=1'" ∧
    Misread (single "https://[::1]/s" "a=b") "curl -v -XGET 'https://[::1]/s?a=b=1'" ∧
    Misread (single "https://[::1]/s" "a#b") "curl -v -XGET 'https://[::1]/s?a#b=1'" ∧
    Misread (single "https://[::1]/s" "a+b") "curl -v -XGET 'https://[::1]/s?a+b=1'" ∧
    Misread (single "https://[::1]/s" "a\tb") "curl -v -XGET 'https://[::1]/s?a\tb=1'" ∧
    Misread (single "https://[::1]/s" "%41") "curl -v -XGET 'https://[::1]/s?%41=1'" ∧
    Misread (single "https://[::1]/s#top" "a") "curl -v -XGET 'https://[::1]/s#top?a=1'" ∧
    Misread (single "https://[::1]/s?x=1 " "a") "curl -v -XGET 'https://[::1]/s?x=1 &a=1'" := by
  decide +kernel

/-- A value may have every character that a key may not have. -/
theorem asked?_of_render_reserved :
    let r : Http.Request :=
      { method := .get, uri := "https://[::1]/s?x=1"
        query := [{ key := "page size", value := "&=#+\t%41 é" },
          { key := "a&b", value := "1", enabled := false }] }
    render r [] = .ok "curl -v -XGET 'https://[::1]/s?x=1&page size=%26%3D%23%2B%09%2541%20%C3%A9'" ∧
      asked? "curl -v -XGET 'https://[::1]/s?x=1&page size=%26%3D%23%2B%09%2541%20%C3%A9'" =
        some [("x", "1"), ("page size", "&=#+\t%41 é")] := by
  intro r
  have hrender : render r [] =
      .ok "curl -v -XGET 'https://[::1]/s?x=1&page size=%26%3D%23%2B%09%2541%20%C3%A9'" := by
    decide +kernel
  have huri : TakesQuery r.uri.toList :=
    ⟨by decide +kernel, fun _ => .of_forall fun c hc =>
      Bool.eq_false_iff.2 (List.any_eq_false.1 (by decide +kernel) c hc)⟩
  have hkeys : ∀ p ∈ r.query.filter (·.enabled), Verbatim p.key := by
    intro p hp
    obtain rfl : p = { key := "page size", value := "&=#+\t%41 é" } := by simpa [r] using hp
    have hplain : ∀ c ∈ "page size".toList, "&=#+\t\n\x0d".toList.contains c = false :=
      fun c hc => Bool.eq_false_iff.2 (List.any_eq_false.1 (by decide) c hc)
    exact ⟨hplain, Url.Percent.unescaped_of_notMem (by decide)⟩
  refine ⟨hrender, (asked?_of_render hrender (fun _ => huri) hkeys).trans ?_⟩
  decide +kernel

end Courier.Command
