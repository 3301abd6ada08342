import Mathlib.Data.List.Nodup
import Courier.Proofs.Command.Line
import Courier.Proofs.Command.Step
import Courier.Proofs.Shell.Words
import Courier.Proofs.Url.Appended
import Courier.Command.Import

/-! Imported requests.

A command in one line has no line feed, and none of its words has one; a draft that takes words of
that kind stays without line feeds, and with one header of each name (`Draft.Sound`). The URL of the
draft is the last word that is one (`url_run`), and its scheme is one of the two that a word may
start with (`scheme_of_isUrl`). Hence what every imported request is like (`imported_of_parse`). -/

namespace Courier.Command

/-! ### Lines -/

/-- A text without line feeds. -/
def IsLine (s : String) : Prop :=
  '\n' ∉ s.toList

instance (s : String) : Decidable (IsLine s) :=
  inferInstanceAs (Decidable (_ ∉ _))

theorem IsLine.append {s t : String} (hs : IsLine s) (ht : IsLine t) : IsLine (s ++ t) := by
  rw [IsLine, String.toList_append, List.mem_append, not_or]
  exact ⟨hs, ht⟩

theorem isLine_ofList {cs : List Char} (h : '\n' ∉ cs) : IsLine (String.ofList cs) := by
  rwa [IsLine, String.toList_ofList]

/-! ### Headers -/

theorem map_fst_setField (name value : String) (headers : List (String × String)) :
    (setField name value headers).map Prod.fst =
      if name ∈ headers.map Prod.fst then headers.map Prod.fst
      else headers.map Prod.fst ++ [name] := by
  induction headers with
  | nil => rfl
  | cons header rest ih =>
    rw [setField]
    by_cases hname : header.1 = name
    · simp [hname]
    · have hne : name ≠ header.1 := Ne.symm hname
      simp only [hname, if_false, List.map_cons, ih, List.mem_cons, hne, false_or]
      split <;> rfl

theorem mem_setField {name value : String} {headers : List (String × String)}
    {header : String × String} (h : header ∈ setField name value headers) :
    header = (name, value) ∨ header ∈ headers := by
  induction headers with
  | nil => exact .inl (List.mem_singleton.1 h)
  | cons other rest ih =>
    rw [setField] at h
    split at h
    · rcases List.mem_cons.1 h with h | h
      · exact .inl h
      · exact .inr (List.mem_cons_of_mem _ h)
    · rcases List.mem_cons.1 h with h | h
      · exact .inr (h ▸ List.mem_cons_self)
      · exact (ih h).imp_right (List.mem_cons_of_mem _)

/-! ### Values -/

theorem isLine_readField {line : String} (h : IsLine line) :
    IsLine (readField line).1 ∧ IsLine (readField line).2 := by
  have hpart {front back : List Char} (hcut : Text.cut? ':' line.toList = some (front, back)) :
      '\n' ∉ front ∧ '\n' ∉ back := by
    rw [IsLine, Text.append_of_cut? hcut] at h
    simpa using h
  unfold readField
  split
  · exact ⟨h, show IsLine "" by decide⟩
  · next hcut =>
    obtain ⟨hname, hvalue⟩ := hpart hcut
    exact ⟨isLine_ofList hname, isLine_ofList fun hmem => hvalue (List.mem_cons_of_mem _ hmem)⟩
  · next hcut =>
    obtain ⟨hname, hvalue⟩ := hpart hcut
    exact ⟨isLine_ofList hname, isLine_ofList hvalue⟩

theorem feed_notMem_encodeChars (bs : List UInt8) : '\n' ∉ Base64.encodeChars bs := by
  have hdigit (n : Nat) : '\n' ≠ Base64.digit n := by
    have hsmall : ∀ n < 64, '\n' ≠ Base64.digit n := by decide
    by_cases hn : n < 64
    · exact hsmall n hn
    · rw [Base64.digit, if_neg (by omega), if_neg (by omega), if_neg (by omega), if_neg (by omega)]
      decide
  fun_induction Base64.encodeChars bs with
  | case1 => simp
  | case2 => simp [hdigit]
  | case3 => simp [hdigit]
  | case4 a b c rest n ih => simp [hdigit, ih]

theorem isLine_basic (user : String) : IsLine (basic user) := by
  have hword : IsLine "Basic " := by decide
  exact hword.append (isLine_ofList (feed_notMem_encodeChars (Utf8.bytes user)))

/-! ### Drafts -/

/-- One header of each name, and no line feed in headers and body. -/
structure Draft.Sound (d : Draft) : Prop where
  names : (d.headers.map Prod.fst).Nodup
  headers : ∀ header ∈ d.headers, IsLine header.1 ∧ IsLine header.2
  body : IsLine d.body

theorem Draft.sound_empty : ({} : Draft).Sound :=
  ⟨List.nodup_nil, nofun, show IsLine "" by decide⟩

namespace Draft.Sound
variable {d : Draft} (h : d.Sound)
include h

theorem set {name value : String} (hname : IsLine name) (hvalue : IsLine value) :
    (d.set name value).Sound := by
  refine ⟨?_, fun header hheader => ?_, h.body⟩
  · show ((setField name value d.headers).map Prod.fst).Nodup
    rw [map_fst_setField]
    split
    · exact h.names
    · next hnew => exact List.nodup_append_comm.1 (List.nodup_cons.2 ⟨hnew, h.names⟩)
  · rcases mem_setField hheader with rfl | hold
    · exact ⟨hname, hvalue⟩
    · exact h.headers header hold

theorem withMethod (method : String) : ({ d with method } : Draft).Sound :=
  ⟨h.names, h.headers, h.body⟩

theorem addData {data : String} (hdata : IsLine data) : (d.addData data).Sound := by
  have htyped : (d.set "Content-Type" Http.formType).Sound := h.set (by decide) (by decide)
  have hbody : IsLine (if d.body = "" then data else d.body ++ "&" ++ data) := by
    split
    · exact hdata
    · have hmark : IsLine "&" := by decide
      exact (h.body.append hmark).append hdata
  rw [d.addData_eq]
  by_cases htype : d.hasContentType = true
  · rw [if_pos htype]
    exact ⟨h.names, h.headers, hbody⟩
  · rw [if_neg htype]
    exact ⟨htyped.names, htyped.headers, hbody⟩

theorem takeValue (pending : Pending) {word : String} (hword : IsLine word) :
    (d.takeValue pending word).Sound := by
  cases pending with
  | none => exact h
  | header =>
    obtain ⟨hname, hvalue⟩ := isLine_readField hword
    exact h.set hname hvalue
  | userAgent => exact h.set (by decide) hword
  | data => exact h.addData hword
  | user => exact h.set (by decide) (isLine_basic word)
  | method => exact h.withMethod word
  | cookie => exact h.set (by decide) hword

/-- A word leaves a draft sound. -/
theorem step (pending : Pending) {word : String} (hword : IsLine word) :
    (Command.step pending d word).2.Sound := by
  cases acts word with
  | url _ hstep =>
    rw [hstep]
    exact ⟨h.names, h.headers, h.body⟩
  | waits _ _ hstep =>
    rw [hstep]
    exact h
  | head _ hstep =>
    rw [hstep]
    exact h.withMethod "HEAD"
  | compressed _ hstep =>
    rw [hstep]
    dsimp only
    split
    · exact h
    · exact h.set (by decide) (by decide)
  | value _ hstep =>
    rw [hstep]
    exact h.takeValue pending hword

/-- All words leave a draft sound. -/
theorem run (pending : Pending) {words : List String} (hwords : ∀ word ∈ words, IsLine word) :
    (Command.run pending d words).2.Sound := by
  induction words generalizing pending d with
  | nil => exact h
  | cons word words ih =>
    obtain ⟨hword, hwords⟩ := List.forall_mem_cons.1 hwords
    rw [run_cons]
    exact ih (h.step pending hword) _ hwords

end Draft.Sound

/-! ### Words -/

theorem isLine_unglue {words : List String} (h : ∀ word ∈ words, IsLine word) :
    ∀ word ∈ unglue words, IsLine word := by
  intro word hmem
  obtain ⟨whole, hwhole, hword⟩ := List.mem_flatMap.1 hmem
  have hline : IsLine whole := h whole hwhole
  split at hword
  · next method hmethod =>
    rw [IsLine, hmethod] at hline
    simp only [List.mem_cons, not_or] at hline
    rcases List.mem_cons.1 hword with rfl | hword
    · decide
    · rw [List.mem_singleton.1 hword]
      exact isLine_ofList hline.2.2
  · rw [List.mem_singleton.1 hword]
    exact hline

/-- The words of a pasted command have no line feeds. -/
theorem isLine_words {text : String} {words : List String}
    (h : Shell.words? (normalize text) = some words) : ∀ word ∈ unglue words, IsLine word := by
  have hline : '\n' ∉ (normalize text).toList := by
    rw [normalize, String.toList_ofList]
    exact notMem_normalizeChars text.toList
  exact isLine_unglue (Shell.notMem_words? (by decide) hline h)

/-! ### URLs -/

theorem url_takeValue (d : Draft) (pending : Pending) (word : String) :
    (d.takeValue pending word).url = d.url := by
  cases pending with
  | data => rw [Draft.takeValue, d.addData_eq]
  | _ => rfl

theorem url_step (pending : Pending) (d : Draft) (word : String) :
    (step pending d word).2.url = if isUrl word then some word else d.url := by
  cases acts word with
  | url hurl hstep | waits _ hurl hstep | head hurl hstep =>
    rw [hstep, hurl]
    rfl
  | compressed hurl hstep =>
    rw [hstep, hurl]
    dsimp only
    split <;> rfl
  | value hvalue hstep =>
    rw [hstep, hvalue.url]
    exact url_takeValue d pending word

/-- The URL of a command is its last word that is one. -/
theorem url_run (pending : Pending) (d : Draft) (words : List String) :
    (run pending d words).2.url = ((words.filter isUrl).getLast?).or d.url := by
  induction words generalizing pending d with
  | nil => rfl
  | cons word words ih =>
    rw [run_cons, ih, url_step, List.filter_cons]
    split
    · rw [List.getLast?_cons]
      cases (words.filter isUrl).getLast? <;> rfl
    · rfl

/-- What the start of a URL is compared with has this in the place of a character. -/
def folded (c : Char) : Char :=
  if c = 'ſ' then 's' else c.toLower

theorem eq_of_folded_eq {c d : Char} (h : folded c = d) (hd : d.toNat < 0x61) : c = d := by
  unfold folded at h
  split at h
  · rw [← h] at hd
    exact absurd hd (by decide)
  · unfold Char.toLower at h
    split at h
    · next hupper =>
      have hlow : 0x41 ≤ c.toNat := UInt32.le_iff_toNat_le.1 hupper.1
      have hhigh : c.toNat ≤ 0x5A := UInt32.le_iff_toNat_le.1 hupper.2
      have hnat : (c.val + ('a'.val - 'A'.val)).toNat = d.toNat := congrArg Char.toNat h
      rw [UInt32.toNat_add, show ('a'.val - 'A'.val).toNat = 0x20 from rfl] at hnat
      have hval : c.val.toNat = c.toNat := rfl
      omega
    · exact h

/-- The name of one of the two schemes that a word may start with. -/
def IsScheme (name : List Char) : Prop :=
  name.map folded = "http".toList ∨ name.map folded = "https".toList

theorem IsScheme.folded_mem {name : List Char} (h : IsScheme name) :
    ∀ c ∈ name, folded c ∈ "https".toList := by
  intro c hc
  have hmem : folded c ∈ name.map folded := List.mem_map_of_mem hc
  rcases h with h | h <;> rw [h] at hmem
  · exact (show "http".toList ⊆ "https".toList by decide) hmem
  · exact hmem

theorem IsScheme.notMem {name : List Char} (h : IsScheme name) {c : Char}
    (hc : folded c ∉ "https".toList) : c ∉ name :=
  fun hmem => hc (h.folded_mem c hmem)

theorem exists_of_isUrl {word : String} (h : isUrl word = true) :
    ∃ name rest, IsScheme name ∧ word.toList = name ++ ':' :: '/' :: rest := by
  have hcut (scheme : List Char)
      (hstart : (scheme ++ "://".toList).isPrefixOf (word.toList.map folded) = true) :
      ∃ name rest, name.map folded = scheme ∧ word.toList = name ++ ':' :: '/' :: rest := by
    obtain ⟨back, hback⟩ := List.isPrefixOf_iff_prefix.1 hstart
    rw [List.append_assoc] at hback
    obtain ⟨name, more, hword, hname, hmore⟩ := List.map_eq_append_iff.1 hback.symm
    obtain ⟨c, more, rfl, hc, hmore⟩ := List.map_eq_cons_iff.1 hmore
    obtain ⟨d, rest, rfl, hd, -⟩ := List.map_eq_cons_iff.1 hmore
    rw [eq_of_folded_eq hc (by decide), eq_of_folded_eq hd (by decide)] at hword
    exact ⟨name, rest, hname, hword⟩
  have hstart : "http://".toList.isPrefixOf (word.toList.map folded) = true ∨
      "https://".toList.isPrefixOf (word.toList.map folded) = true := Bool.or_eq_true_iff.1 h
  rcases hstart with hstart | hstart
  · obtain ⟨name, rest, hname, hword⟩ := hcut "http".toList hstart
    exact ⟨name, rest, .inl hname, hword⟩
  · obtain ⟨name, rest, hname, hword⟩ := hcut "https".toList hstart
    exact ⟨name, rest, .inr hname, hword⟩

/-- No URL is a glued method. -/
theorem unglued_of_isUrl {word : String} (h : isUrl word = true) : ¬"-X".toList <+: word.toList := by
  rintro ⟨method, hglued⟩
  obtain ⟨name, rest, hname, hword⟩ := exists_of_isUrl h
  have hfirst : some '-' = (name ++ ':' :: '/' :: rest).head? := by
    rw [← hword, ← hglued]
    rfl
  cases name with
  | nil => cases hfirst
  | cons c name =>
    cases hfirst
    exact hname.notMem (by decide) List.mem_cons_self

/-- The scheme of a word that is a URL. A long s is let through at first, but no scheme has one. -/
theorem scheme_of_isUrl {word : String} (h : isUrl word = true) {u : Url}
    (hurl : Url.parse? word.toList = some u) :
    u.scheme = "http".toList ∨ u.scheme = "https".toList := by
  obtain ⟨name, rest, hname, hword⟩ := exists_of_isUrl h
  have hvisible : ∀ c ∈ name, Url.isEdge c = false := by
    have hedges : ∀ n < 0x21, folded (Char.ofNat n) ∉ "https".toList := by decide
    intro c hc
    rw [Url.isEdge, decide_eq_false_iff_not]
    intro hle
    have hletter := hname.folded_mem c hc
    rw [← Char.ofNat_toNat c] at hletter
    exact hedges c.toNat (Nat.lt_succ_of_le hle) hletter
  rw [hword] at hurl
  obtain ⟨hscheme, hchars⟩ := Url.scheme_of_parse? hvisible
    ⟨hname.notMem (by decide), hname.notMem (by decide), hname.notMem (by decide)⟩ hurl
  have hfolded : name.map folded = name.map Char.toLower := by
    apply List.map_congr_left
    intro c hc
    rw [folded, if_neg]
    rintro rfl
    exact absurd (hchars 'ſ' hc) (by decide)
  rw [hscheme, ← hfolded]
  exact hname

theorem kind_of_scheme {scheme : List Char}
    (h : scheme = "http".toList ∨ scheme = "https".toList) : Url.kind scheme = .network := by
  rcases h with rfl | rfl <;> decide

/-- What a URL of one of these schemes shows before its query. -/
theorem isOuter_address {u : Url} (hshape : Url.Shape u)
    (hscheme : u.scheme = "http".toList ∨ u.scheme = "https".toList) :
    ∀ c ∈ u.origin ++ u.path, Url.isOuter c = true := by
  obtain ⟨rest, hpath, hrest⟩ := hshape.path
  have hname : ∀ c ∈ u.scheme, Url.isOuter c = true := by
    rcases hscheme with hscheme | hscheme <;> rw [hscheme]
    · exact List.all_eq_true.1 (by decide)
    · exact List.all_eq_true.1 (by decide)
  have hmarks : ∀ c ∈ "://".toList, Url.isOuter c = true := List.all_eq_true.1 (by decide)
  rw [Url.origin, if_pos hshape.scheme, hpath]
  simp only [List.forall_mem_append, List.forall_mem_cons]
  exact ⟨⟨⟨hname, hmarks⟩, fun c hc => Url.isOuter_of_isAuthority (hshape.authority c hc)⟩,
    by decide, hrest⟩

/-! ### Requests -/

/-- What every imported request is like. -/
structure Imported (r : Http.Request) : Prop where
  auth : r.auth = []
  contentType : ';' ∉ r.contentType.toList
  /-- The content type is no header. -/
  apart : ∀ header ∈ r.headers, Http.isContentType header.key = false
  names : (r.headers.map (·.key)).Nodup
  enabled : ∀ p ∈ r.headers ++ r.query, p.enabled = true
  lines : IsLine r.body ∧ ∀ header ∈ r.headers, IsLine header.key ∧ IsLine header.value
  /-- The address has a scheme, a place without credentials, and a path. -/
  parts : ∃ scheme place path, r.uri.toList = scheme ++ "://".toList ++ place ++ '/' :: path ∧
    (scheme = "http".toList ∨ scheme = "https".toList) ∧ '/' ∉ place ∧ '@' ∉ place
  /-- The address has no query and no fragment. -/
  marks : '?' ∉ r.uri.toList ∧ '#' ∉ r.uri.toList

section
variable {d : Draft} {url : Url}

theorem key_mem_headers {header : Http.Parameter} (h : header ∈ (requestOf d url).headers) :
    (header.key, header.value) ∈ d.headers ∧ Http.isContentType header.key = false ∧
      header.enabled = true := by
  obtain ⟨⟨key, value⟩, hmem, rfl⟩ := List.mem_map.1 h
  obtain ⟨hmem, htype⟩ := List.mem_filter.1 hmem
  exact ⟨hmem, by simpa using htype, rfl⟩

theorem names_requestOf (h : (d.headers.map Prod.fst).Nodup) :
    ((requestOf d url).headers.map (·.key)).Nodup := by
  have hkeys : (requestOf d url).headers.map (·.key) =
      (d.headers.filter fun header => !Http.isContentType header.1).map Prod.fst := by
    rw [requestOf, List.map_map]
    rfl
  rw [hkeys]
  exact h.sublist (List.filter_sublist.map Prod.fst)

theorem uri_requestOf (hshape : Url.Shape url) :
    (requestOf d url).uri.toList =
      url.scheme ++ "://".toList ++ url.hostPort ++ url.path := by
  rw [requestOf, String.toList_ofList, Url.origin, if_pos hshape.scheme]

theorem contentTypeOf_stops (d : Draft) : ';' ∉ (contentTypeOf d).toList := by
  intro hmem
  rw [contentTypeOf, String.toList_ofList] at hmem
  simpa using List.mem_takeWhile_imp hmem

theorem imported_requestOf (h : d.Sound) (hshape : Url.Shape url)
    (hscheme : url.scheme = "http".toList ∨ url.scheme = "https".toList) :
    Imported (requestOf d url) := by
  obtain ⟨path, hpath, -⟩ := hshape.path
  have hplace (c : Char) (hc : Url.isAuthority c = false) : c ∉ url.hostPort :=
    Text.notMem_of_class hshape.authority hc
  have hmark (c : Char) (hc : Url.isOuter c = false) : c ∉ (requestOf d url).uri.toList := by
    rw [requestOf, String.toList_ofList]
    exact Text.notMem_of_class (isOuter_address hshape hscheme) hc
  refine ⟨rfl, contentTypeOf_stops d, ?_, names_requestOf h.names, ?_, ⟨h.body, ?_⟩, ?_, ?_, ?_⟩
  · exact fun header hheader => (key_mem_headers hheader).2.1
  · refine List.forall_mem_append.2 ⟨fun header hheader => (key_mem_headers hheader).2.2, ?_⟩
    rintro p hp
    obtain ⟨pair, -, rfl⟩ := List.mem_map.1 hp
    rfl
  · exact fun header hheader => h.headers _ (key_mem_headers hheader).1
  · refine ⟨url.scheme, url.hostPort, path, ?_, hscheme, hplace '/' (by decide), hplace '@' (by decide)⟩
    rw [uri_requestOf hshape, hpath]
  · exact hmark '?' (by decide)
  · exact hmark '#' (by decide)

end

/-- **Every imported request is plain**, whatever was pasted, and its query is that of the last word
of the command that is a URL. -/
theorem imported_of_parse {text : String} {r : Http.Request} (h : parse text = .ok r) :
    Imported r ∧ ∃ words word, Shell.words? (normalize text) = some words ∧
      ((unglue words).filter isUrl).getLast? = some word ∧
      r.query = (Url.pairsOf word.toList).map fun (key, value) => { key, value } := by
  simp only [parse] at h
  split at h
  · split at h
    · cases h
    · next words hwords =>
      simp only [ofWords] at h
      split at h
      · cases h
      · next url hurl =>
        obtain rfl := Except.ok.inj h
        obtain ⟨word, hword, hparse⟩ := Option.bind_eq_some_iff.1 hurl
        rw [url_run, Option.or_none] at hword
        have hsound : (run .none {} (unglue words)).2.Sound :=
          Draft.sound_empty.run .none (isLine_words hwords)
        have hscheme : url.scheme = "http".toList ∨ url.scheme = "https".toList :=
          scheme_of_isUrl (List.mem_filter.1 (List.mem_of_getLast? hword)).2 hparse
        have hnetwork : Url.kind url.scheme = .network := kind_of_scheme hscheme
        refine ⟨imported_requestOf hsound (Url.shape_of_parse? hparse hnetwork) hscheme, words, word,
          hwords, hword, ?_⟩
        rw [requestOf, Url.pairsOf, hparse]
  · cases h

/-- The second value of a header goes in the place of the first, a line end in the data is a space,
and the address loses its user, its query and its fragment. -/
theorem imported_of_parse_pasted :
    let text := "$ curl -H X:1 -H X:2 \\\n -d 'a\nb' http://me@[::1]/c?k=v+w#top"
    let r : Http.Request :=
      { method := .post, uri := "http://[::1]/c", body := "a b", contentType := Http.formType
        headers := [{ key := "X", value := "2" }], query := [{ key := "k", value := "v w" }] }
    parse text = .ok r ∧ Imported r := by
  intro text r
  have h : parse text = .ok r := by decide +kernel
  exact ⟨h, (imported_of_parse h).1⟩

end Courier.Command
