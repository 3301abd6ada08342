import Courier.Proofs.Url.Outside
import Courier.Proofs.Url.Query

/-! A query put behind a URL.

A text that has no fragment and ends visibly takes a query behind it: after a question mark if it
has none yet, and after an ampersand if it has. What is read of the whole is what is read of the
text, with the query put in (`parse?_append_fresh`), or with the pairs of the query behind those
that stand there already (`pairs_append_query`). -/

namespace Courier.Url

/-! ### Parts -/

/-- The URL of a text without a fragment, from its parts before and behind the question mark. -/
def parseParts? (front : List Char) (query : Option (List Char)) : Option Url :=
  (cutScheme? front).bind fun parts => assemble? parts.1 parts.2 query query.isNone

theorem parse?_eq_parseParts? {text front : List Char} {query : Option (List Char)}
    (hfragment : '#' ∉ clean text) (hquery : cutOff '?' (clean text) = (front, query)) :
    parse? text = parseParts? front query := by
  unfold parse? parseParts?
  rw [cutOff_of_notMem hfragment]
  dsimp only
  rw [hquery]
  dsimp only
  cases cutScheme? front with
  | none => rfl
  | some parts => simp

theorem query_of_parseParts? {front : List Char} {query : Option (List Char)} {u : Url}
    (h : parseParts? front query = some u) : u.query = query := by
  obtain ⟨parts, -, hassemble⟩ := Option.bind_eq_some_iff.1 h
  rw [assemble?_eq_map] at hassemble
  obtain ⟨bare, -, rfl⟩ := Option.map_eq_some_iff.1 hassemble
  rfl

/-- The query goes into a URL as it is. What may stand before a query may stand without one, and
in the network the other way round too. -/
theorem parseParts?_query {front : List Char} {query : Option (List Char)} {u : Url}
    (h : parseParts? front query = some u) (other : Option (List Char))
    (hquery : query.isSome = true ∨ kind u.scheme = .network) :
    parseParts? front other = some { u with query := other } := by
  obtain ⟨parts, hcut, hassemble⟩ := Option.bind_eq_some_iff.1 h
  rw [parseParts?, hcut, Option.bind_some]
  rw [assemble?_eq_map] at hassemble ⊢
  obtain ⟨bare, hbare, rfl⟩ := Option.map_eq_some_iff.1 hassemble
  have hlast : assemble? parts.1 parts.2 none other.isNone = some bare := by
    rcases hquery with hsome | hnetwork
    · obtain ⟨text, rfl⟩ := Option.isSome_iff_exists.1 hsome
      exact assemble?_last hbare _
    · rw [assemble?_network none hnetwork other.isNone query.isNone]
      exact hbare
  rw [hlast]
  rfl

/-! ### Putting a query behind -/

/-- What stays as it is behind a URL: no fragment starts in it, nothing is taken out of it, and
it ends visibly. -/
structure IsQuery (query : List Char) : Prop where
  fragment : '#' ∉ query
  kept : ∀ c ∈ query, isKept c = true
  last : EndsVisibly query

theorem clean_append_mark {query : List Char} (hquery : IsQuery query) {mark : Char}
    (hmark : isEdge mark = false) (text : List Char) :
    clean (text ++ mark :: query) = cleanStart text ++ mark :: query := by
  have hkept : (mark :: query).filter isKept = mark :: query :=
    List.filter_eq_self.2 (List.forall_mem_cons.2 ⟨isKept_of_isEdge hmark, hquery.kept⟩)
  have hend : EndsVisibly (text ++ mark :: query) := by
    intro c hc
    rw [List.filter_append, hkept, List.getLast?_append_of_ne_nil _ (by simp)] at hc
    cases query with
    | nil =>
      cases hc
      exact hmark
    | cons d rest =>
      apply hquery.last c
      rwa [List.filter_eq_self.2 hquery.kept, ← List.getLast?_cons_cons]
  have hstart : (text ++ mark :: query).dropWhile isEdge =
      text.dropWhile isEdge ++ mark :: query := by
    rw [List.dropWhile_append]
    split
    · next hempty =>
      rw [List.isEmpty_iff.1 hempty, List.dropWhile_cons_of_neg (by simp [hmark]), List.nil_append]
    · rfl
  rw [clean_eq hend, cleanStart, hstart, List.filter_append, hkept, cleanStart]

section
variable {text query : List Char} (hfragment : '#' ∉ text) (hquery : IsQuery query)
include hfragment

theorem parse?_fresh (hfresh : '?' ∉ text) : parse? text = parseParts? (clean text) none := by
  apply parse?_eq_parseParts?
  · exact fun hmem => hfragment (mem_of_mem_clean hmem)
  · exact cutOff_of_notMem fun hmem => hfresh (mem_of_mem_clean hmem)

include hquery

theorem fragment_notMem_append {mark : Char} (hedge : isEdge mark = false) (hmark : mark ≠ '#') :
    '#' ∉ clean (text ++ mark :: query) := by
  rw [clean_append_mark hquery hedge]
  simp only [List.mem_append, List.mem_cons, not_or]
  exact ⟨fun hmem => hfragment (mem_of_mem_cleanStart hmem), hmark.symm, hquery.fragment⟩

theorem parse?_append_fresh (hfresh : '?' ∉ text) :
    parse? (text ++ '?' :: query) = parseParts? (cleanStart text) (some query) := by
  apply parse?_eq_parseParts?
  · exact fragment_notMem_append hfragment hquery (by decide) (by decide)
  · rw [clean_append_mark hquery (by decide)]
    exact cutOff_append_cons (fun hmem => hfresh (mem_of_mem_cleanStart hmem)) query

/-- A URL of the network takes a query. -/
theorem parse?_append_network (hfresh : '?' ∉ text) (htext : EndsVisibly text) {u : Url}
    (h : parse? text = some u) (hnetwork : kind u.scheme = .network) :
    parse? (text ++ '?' :: query) = some { u with query := some query } := by
  rw [parse?_fresh hfragment hfresh, clean_eq htext] at h
  rw [parse?_append_fresh hfragment hquery hfresh]
  exact parseParts?_query h _ (Or.inr hnetwork)

end

/-- The pairs in the query of a text's URL. -/
def pairsOf (text : List Char) : List (String × String) :=
  match parse? text with
  | none => []
  | some u => Query.pairs (u.query.getD [])

/-- What a text must be like to have a query put behind it: it has no fragment, and if it has a
query already, that one ends visibly. -/
structure TakesQuery (text : List Char) : Prop where
  fragment : '#' ∉ text
  last : '?' ∈ text → EndsVisibly text

/-- **The pairs of a query behind a URL follow those that are there already.** -/
theorem pairs_append_query {text query : List Char} (htext : TakesQuery text)
    (hquery : IsQuery query) {url : Url}
    (h : parse? (text ++ (if text.contains '?' then '&' else '?') :: query) = some url) :
    Query.pairs (url.query.getD []) = pairsOf text ++ Query.pairs query := by
  by_cases hmark : '?' ∈ text
  · have hclean : clean text = cleanStart text := clean_eq (htext.last hmark)
    have hmem : '?' ∈ cleanStart text := mem_cleanStart hmark (by decide)
    obtain ⟨front, back, hcut, hfront⟩ := List.eq_append_cons_of_mem hmem
    rw [if_pos (by simpa using hmark)] at h
    have hurl : parse? (text ++ '&' :: query) =
        parseParts? front (some (back ++ '&' :: query)) := by
      apply parse?_eq_parseParts?
      · exact fragment_notMem_append htext.fragment hquery (by decide) (by decide)
      · rw [clean_append_mark hquery (by decide), hcut, List.append_assoc, List.cons_append,
          cutOff_append_cons hfront]
    have hbase : parse? text = parseParts? front (some back) := by
      apply parse?_eq_parseParts?
      · exact fun hmem => htext.fragment (mem_of_mem_clean hmem)
      · rw [hclean, hcut, cutOff_append_cons hfront]
    rw [hurl] at h
    have hthere : parse? text = some { url with query := some back } :=
      hbase.trans (parseParts?_query h (some back) (Or.inl rfl))
    rw [query_of_parseParts? h, pairsOf, hthere]
    exact Query.pairs_append back query
  · rw [if_neg (by simpa using hmark), parse?_append_fresh htext.fragment hquery hmark] at h
    have hnone : pairsOf text = [] := by
      rw [pairsOf, parse?_fresh htext.fragment hmark]
      split
      · rfl
      · next u hu =>
        rw [query_of_parseParts? hu]
        rfl
    rw [query_of_parseParts? h, hnone]
    rfl

end Courier.Url
