import Courier.Proofs.Command.Layout
import Courier.Proofs.Command.Query
import Courier.Proofs.Command.Reading

/-! Importing what was exported.

A request is portable (`Portable`) if a command has a place for all of it and the machine that reads
the command takes nothing of it for something else. The command of such a request is in one line
already (`normalize_wordsOf`), its words leave the draft of the request (`run_words`), and the
draft makes the request (`requestOf_draftOf`). Hence `parse_of_portable`: exporting a portable
request and importing the command gives the request back. -/

namespace Courier.Command

/-! ### Portable requests -/

/-- A text that no step of the normalizer changes. -/
def Smooth (s : String) : Prop :=
  '\n' ∉ s.toList ∧ '^' ∉ s.toList

instance (s : String) : Decidable (Smooth s) :=
  inferInstanceAs (Decidable (_ ∧ _))

theorem Smooth.append {s t : String} (hs : Smooth s) (ht : Smooth t) : Smooth (s ++ t) := by
  simp only [Smooth, String.toList_append, List.mem_append, not_or]
  exact ⟨⟨hs.1, ht.1⟩, hs.2, ht.2⟩

/-- A request whose body is read back as data. -/
structure CarriesBody (r : Http.Request) : Prop where
  /-- Data makes a form of a request without a method of its own. -/
  method : r.method ≠ .get ∧ r.method ≠ .head
  /-- Data makes a form of a request without a content type. -/
  contentType : r.contentType ≠ ""
  exported : dataText r = r.body
  unglued : ¬"-X".toList <+: r.body.toList
  flag : isFlag r.body = false
  url : isUrl r.body = false

/-- A request that a command carries as it is. -/
structure Portable (r : Http.Request) : Prop where
  auth : r.auth = []
  /-- The address is a URL in its normal form, without a query. -/
  address : ∃ u, Url.parse? r.uri.toList = some u ∧
    (u.scheme = "http".toList ∨ u.scheme = "https".toList) ∧ r.uri.toList = u.origin ++ u.path
  query : ∀ p ∈ r.query, p.enabled = true ∧
    ∀ c ∈ p.key.toList, Url.Percent.keptInComponent c = true
  headers : ∀ header ∈ r.headers, header.enabled = true ∧ ':' ∉ header.key.toList ∧
    ¬"-X".toList <+: header.key.toList ∧ Http.isContentType header.key = false
  names : (r.headers.map (·.key)).Nodup
  contentType : ';' ∉ r.contentType.toList
  smooth : Smooth r.uri ∧ Smooth r.contentType ∧ Smooth r.body ∧
    ∀ header ∈ r.headers, Smooth header.key ∧ Smooth header.value
  body : r.body ≠ "" → CarriesBody r

/-! ### The address -/

theorem verbatim_of_kept {key : String}
    (h : ∀ c ∈ key.toList, Url.Percent.keptInComponent c = true) : Verbatim key := by
  have hother (c : Char) (hc : Url.Percent.keptInComponent c = false) : c ∉ key.toList :=
    Text.notMem_of_class h hc
  have hmarks : ∀ c ∈ "&=#+\t\n\x0d".toList, Url.Percent.keptInComponent c = false :=
    fun c hc => Bool.eq_false_iff.2 (List.any_eq_false.1 (by decide) c hc)
  refine ⟨fun c hc => ?_, Url.Percent.unescaped_of_notMem (hother '%' (by decide))⟩
  rw [Bool.eq_false_iff, ne_eq, List.contains_iff_mem]
  exact fun hmark => hother c (hmarks c hmark) hc

section
variable {r : Http.Request} (h : Portable r)
include h

theorem isOuter_uri : ∀ c ∈ r.uri.toList, Url.isOuter c = true := by
  obtain ⟨u, hu, hscheme, huri⟩ := h.address
  rw [huri]
  exact isOuter_address (Url.shape_of_parse? hu (kind_of_scheme hscheme)) hscheme

theorem notMem_uri {c : Char} (hc : Url.isOuter c = false) : c ∉ r.uri.toList :=
  Text.notMem_of_class (isOuter_uri h) hc

theorem sent_query : sent r.query = r.query.map fun p => (p.key, p.value) := by
  rw [sent, List.filter_eq_self.2 fun p hp => (h.query p hp).1]

theorem toList_fullUri : (fullUri r).toList =
    if r.query = [] then r.uri.toList else r.uri.toList ++ '?' :: queryText r.query := by
  unfold fullUri
  by_cases hnone : r.query = []
  · simp [hnone]
  · obtain ⟨p, rest, hp⟩ := List.exists_cons_of_ne_nil hnone
    have henabled : p.enabled = true := (h.query p (hp ▸ List.mem_cons_self)).1
    have hsome : r.query.any (·.enabled) = true := by simp [hp, henabled]
    have hmark : r.uri.toList.contains '?' = false := by
      rw [Bool.eq_false_iff, ne_eq, List.contains_iff_mem]
      exact notMem_uri h (by decide)
    rw [if_pos hsome, if_neg hnone, hmark, String.toList_ofList]
    rfl

/-- The whole address is a URL: what stands before its query is the address of the request. -/
theorem parse?_fullUri : ∃ url, Url.parse? (fullUri r).toList = some url ∧
    String.ofList (url.origin ++ url.path) = r.uri ∧
    Url.Query.pairs (url.query.getD []) = r.query.map fun p => (p.key, p.value) := by
  obtain ⟨u, hu, hscheme, huri⟩ := h.address
  have hfragment : '#' ∉ r.uri.toList := notMem_uri h (by decide)
  have hfresh : '?' ∉ r.uri.toList := notMem_uri h (by decide)
  have hvisible : Url.EndsVisibly r.uri.toList :=
    .of_forall fun c hc => Url.isEdge_of_isOuter (isOuter_uri h c hc)
  have hback : String.ofList (u.origin ++ u.path) = r.uri := by
    rw [← huri, String.ofList_toList]
  rw [toList_fullUri h]
  split
  · next hnone =>
    refine ⟨u, hu, hback, ?_⟩
    rw [hnone, Url.query_of_parseParts? (Url.parse?_fresh hfragment hfresh ▸ hu)]
    rfl
  · have hkeys : ∀ p ∈ r.query.filter (·.enabled), Verbatim p.key :=
      fun p hp => verbatim_of_kept (h.query p (List.mem_filter.1 hp).1).2
    refine ⟨_, Url.parse?_append_network hfragment (isQuery_queryText hkeys) hfresh hvisible hu
      (kind_of_scheme hscheme), hback, ?_⟩
    rw [Option.getD_some, pairs_queryText hkeys, sent_query h]

/-- The address starts with one of the two schemes. -/
theorem fullUri_start : ∃ start ∈ ["http://".toList, "https://".toList],
    start <+: (fullUri r).toList := by
  obtain ⟨u, hu, hscheme, huri⟩ := h.address
  have hnetwork : Url.kind u.scheme = .network := kind_of_scheme hscheme
  have hstart : u.scheme ++ "://".toList <+: (fullUri r).toList := by
    have hown : u.scheme ++ "://".toList <+: r.uri.toList := by
      rw [huri, Url.origin, if_pos hnetwork, List.append_assoc]
      exact List.prefix_append _ _
    rw [toList_fullUri h]
    split
    · exact hown
    · exact hown.trans (List.prefix_append _ _)
  rcases hscheme with hscheme | hscheme <;> rw [hscheme] at hstart
  · exact ⟨"http://".toList, by simp, hstart⟩
  · exact ⟨"https://".toList, by simp, hstart⟩

theorem isUrl_fullUri : isUrl (fullUri r) = true := by
  obtain ⟨start, hmem, back, hback⟩ := fullUri_start h
  have hfolded : ∀ start ∈ ["http://".toList, "https://".toList], start.map folded = start := by
    decide
  have hlower : (fullUri r).toList.map folded = start ++ back.map folded := by
    rw [← hback, List.map_append, hfolded start hmem]
  show ("http://".toList.isPrefixOf ((fullUri r).toList.map folded) ||
    "https://".toList.isPrefixOf ((fullUri r).toList.map folded)) = true
  rw [hlower]
  rcases List.mem_cons.1 hmem with rfl | hmem
  · simp
  · rw [List.mem_singleton.1 hmem]
    simp

end

/-! ### The line -/

/-- The fields of the header lines. -/
def fieldsOf (r : Http.Request) : List (String × String) :=
  r.headers.map (fun header => (header.key, header.value)) ++
    if r.contentType = "" then [] else [("Content-Type", r.contentType)]

section
variable {r : Http.Request} (h : Portable r)
include h

theorem spokenHeaders_eq (host : List Char) :
    spokenHeaders r host [] = (fieldsOf r).map lineOf := by
  have henabled : r.headers.filter (·.enabled) = r.headers :=
    List.filter_eq_self.2 fun header hheader => (h.headers header hheader).1
  have hapart : ∀ header ∈ r.headers, Http.isContentType header.key = false :=
    fun header hheader => (h.headers header hheader).2.2.2
  simp only [spokenHeaders, henabled, List.filter_nil, if_true, List.nil_append, fieldsOf,
    List.map_append, List.map_map]
  congr 1
  by_cases htype : r.contentType = ""
  · simp [htype]
  · rw [if_pos ⟨htype, hapart⟩, if_neg htype]
    rfl

/-- The address with its query has the characters of the address, those that are kept in keys and
values, and the marks of queries and escapes. -/
theorem notMem_fullUri {x : Char} (huri : x ∉ r.uri.toList)
    (hkept : Url.Percent.keptInComponent x = false) (hmark : x ∉ "?&=%".toList) :
    x ∉ (fullUri r).toList := by
  have hother (c : Char) (hc : Url.Percent.keptInComponent c = true ∨ c ∈ "?&=%".toList) :
      c ≠ x := by
    rintro rfl
    rcases hc with hc | hc
    · exact Text.ne_of_class hc hkept rfl
    · exact hmark hc
  have hdigits : ∀ d < 16, Url.Percent.keptInComponent (Url.Percent.digit d) = true := by decide
  have hvalue (value : String) :
      ∀ c ∈ Url.Percent.encode Url.Percent.keptInComponent value.toList, c ≠ x :=
    Url.Percent.forall_mem_encode (fun c hc => hother c (.inl hc)) (hother '%' (by simp))
      (fun d hd => hother _ (.inl (hdigits d hd))) value.toList
  have hquery : ∀ c ∈ queryText r.query, c ≠ x := by
    apply Text.forall_mem_intercalate (p := fun c => c ≠ x) (hother '&' (by simp))
    simp only [List.forall_mem_map, pairText, List.forall_mem_append, List.forall_mem_cons]
    intro p hp
    have hkey := (h.query p (List.mem_filter.1 hp).1).2
    exact ⟨fun c hc => hother c (.inl (hkey c hc)), hother '=' (by simp), hvalue p.value⟩
  rw [toList_fullUri h]
  split
  · exact huri
  · simp only [List.mem_append, List.mem_cons, not_or]
    exact ⟨huri, (hother '?' (by simp)).symm, fun hmem => hquery x hmem rfl⟩

theorem smooth_fullUri : Smooth (fullUri r) :=
  ⟨notMem_fullUri h h.smooth.1.1 (by decide) (by decide),
    notMem_fullUri h h.smooth.1.2 (by decide) (by decide)⟩

theorem smooth_lineOf : ∀ field ∈ fieldsOf r, Smooth (lineOf field) := by
  have hmark : Smooth ": " := by decide
  have hname : Smooth "Content-Type" := by decide
  obtain ⟨-, htype, -, hheaders⟩ := h.smooth
  unfold fieldsOf
  simp only [List.forall_mem_append, List.forall_mem_map]
  refine ⟨fun header hheader => ?_, ?_⟩
  · exact ((hheaders header hheader).1.append hmark).append (hheaders header hheader).2
  · split
    · exact List.forall_mem_nil _
    · exact List.forall_mem_singleton.2 ((hname.append hmark).append htype)

theorem smooth_wordsOf (host : List Char) : ∀ word ∈ wordsOf r host [], Smooth word.2 := by
  have hmethod : Smooth ("-X" ++ r.method.name) := by cases r.method <;> decide
  simp only [wordsOf, headerLines_eq, spokenHeaders_eq h, List.forall_mem_append,
    List.forall_mem_cons, List.forall_mem_flatMap, List.forall_mem_map]
  refine ⟨⟨⟨⟨by decide, by decide, hmethod, List.forall_mem_nil _⟩, ?_⟩, ?_⟩, smooth_fullUri h,
    List.forall_mem_nil _⟩
  · split
    · next hbody =>
      have hcarries : CarriesBody r := h.body (by simpa [Http.Request.hasBody] using hbody)
      have hdata : Smooth (dataText r) := by
        rw [hcarries.exported]
        exact h.smooth.2.2.1
      exact List.forall_mem_cons.2 ⟨by decide, List.forall_mem_singleton.2 hdata⟩
    · exact List.forall_mem_nil _
  · exact fun field hfield => ⟨by decide, smooth_lineOf h field hfield, List.forall_mem_nil _⟩

end

theorem smooth_written {word : Bool × String} (h : Smooth word.2) : Smooth (written word) := by
  have hquoted {c : Char} (hquote : c ≠ '\'') (hescape : c ≠ '\\') (hc : c ∉ word.2.toList) :
      c ∉ Shell.quoteChars word.2.toList := by
    simp [Shell.quoteChars, hquote, notMem_quoted hquote hescape hc]
  unfold written
  split
  · simp only [Smooth, Shell.quote, String.toList_ofList]
    exact ⟨hquoted (by decide) (by decide) h.1, hquoted (by decide) (by decide) h.2⟩
  · exact h

theorem smooth_intercalate {words : List String} (h : ∀ word ∈ words, Smooth word) :
    Smooth (" ".intercalate words) := by
  have hnone {x : Char} (hx : x ≠ ' ') (h : ∀ word ∈ words, x ∉ word.toList) :
      x ∉ (" ".intercalate words).toList := by
    rw [String.toList_intercalate]
    exact Text.notMem_intercalate hx (List.forall_mem_map.2 h)
  exact ⟨hnone (by decide) fun word hword => (h word hword).1,
    hnone (by decide) fun word hword => (h word hword).2⟩

/-- The line starts with the name of the command and ends with the quote behind the address. -/
theorem toList_line (r : Http.Request) (host : List Char) : ∃ rest,
    (" ".intercalate ((wordsOf r host []).map written)).toList = "curl ".toList ++ rest ∧
      rest.getLast? = some '\'' := by
  obtain ⟨front, hfront⟩ : ∃ front, wordsOf r host [] =
      (false, "curl") :: (front ++ [(true, fullUri r)]) := ⟨_, rfl⟩
  have hlast : (written (true, fullUri r)).toList.getLast? = some '\'' := by
    rw [written, if_pos rfl, Shell.quote, String.toList_ofList, Shell.quoteChars]
    exact List.getLast?_concat
  have hline : (" ".intercalate ((wordsOf r host []).map written)).toList = "curl".toList ++ [' '] ++
      [' '].intercalate ((front.map fun word => (written word).toList) ++
        [(written (true, fullUri r)).toList]) := by
    rw [hfront, String.toList_intercalate, ← List.intercalate_cons_of_ne_nil (by simp)]
    simp only [List.map_cons, List.map_append, List.map_map, List.map_nil]
    rfl
  exact ⟨_, hline, Text.getLast?_intercalate _ hlast⟩

/-- The command is in one line already. -/
theorem normalize_wordsOf {r : Http.Request} (h : Portable r) (host : List Char) :
    normalize (" ".intercalate ((wordsOf r host []).map written)) =
      " ".intercalate ((wordsOf r host []).map written) := by
  obtain ⟨rest, hline, hlast⟩ := toList_line r host
  have hsmooth : Smooth (" ".intercalate ((wordsOf r host []).map written)) :=
    smooth_intercalate (List.forall_mem_map.2 fun word hword =>
      smooth_written (smooth_wordsOf h host word hword))
  rw [Smooth, hline] at hsmooth
  simp only [List.mem_append, not_or] at hsmooth
  have hvisible : ∀ c, rest.getLast? = some c → Text.isBlank c = false := by
    rw [hlast]
    rintro c ⟨⟩
    decide
  have hne : rest ≠ [] := by
    rintro rfl
    cases hlast
  rw [normalize, hline, normalizeChars_eq_self hsmooth.1.2 hsmooth.2.2 hvisible hne, ← hline,
    String.ofList_toList]

theorem isCommand_wordsOf (r : Http.Request) (host : List Char) :
    isCommand (" ".intercalate ((wordsOf r host []).map written)) = true := by
  obtain ⟨rest, hline, -⟩ := toList_line r host
  rw [isCommand, hline]
  exact startsCommand_curl _ (' ' :: rest) rfl

/-! ### The draft -/

/-- The words behind the method: the data, the header lines, the address. -/
def furtherWords (r : Http.Request) : List String :=
  (if r.body = "" then [] else ["-d", r.body]) ++
    ((fieldsOf r).flatMap (fun field => ["-H", lineOf field]) ++ [fullUri r])

/-- The draft that the words of a command leave. Data has set a content type by itself. -/
def draftOf (r : Http.Request) : Draft where
  url := some (fullUri r)
  method := r.method.name
  headers := setAll (fieldsOf r) (if r.body = "" then [] else [("Content-Type", Http.formType)])
  body := r.body

theorem isValue_name (method : Http.Method) : IsValue method.name := by
  cases method <;> exact ⟨by decide, by decide, by decide⟩

theorem run_method (method : Http.Method) (words : List String) :
    run .none {} ("curl" :: "-v" :: "-X" :: method.name :: words) =
      run .none { method := method.name } words := by
  have hcurl : IsValue "curl" := ⟨by decide, by decide, by decide⟩
  have hverbose : IsValue "-v" := ⟨by decide, by decide, by decide⟩
  rw [run_cons, step_value _ _ hcurl, run_cons, step_value _ _ hverbose]
  exact run_flag {} (show isUrl "-X" = false by decide) rfl (isValue_name method) words

section
variable {r : Http.Request} (h : Portable r)
include h

theorem names_fieldsOf : ∀ field ∈ fieldsOf r,
    ':' ∉ field.1.toList ∧ ¬"-X".toList <+: field.1.toList := by
  simp only [fieldsOf, List.forall_mem_append, List.forall_mem_map]
  refine ⟨fun header hheader => ?_, ?_⟩
  · exact ⟨(h.headers header hheader).2.1, (h.headers header hheader).2.2.1⟩
  · split
    · exact List.forall_mem_nil _
    · exact List.forall_mem_singleton.2 (show ':' ∉ "Content-Type".toList ∧
        ¬"-X".toList <+: "Content-Type".toList by decide)

theorem unglue_spokenWords (host : List Char) : unglue (spokenWords r host []) =
    "curl" :: "-v" :: "-X" :: r.method.name :: furtherWords r := by
  have hdata : (if r.body = "" then [] else ["-d", dataText r]) =
      if r.body = "" then [] else ["-d", r.body] := by
    by_cases hbody : r.body = ""
    · rw [if_pos hbody, if_pos hbody]
    · rw [if_neg hbody, if_neg hbody, (h.body hbody).exported]
  have hwords : spokenWords r host [] =
      ["curl", "-v"] ++ (["-X" ++ r.method.name] ++ furtherWords r) := by
    rw [spokenWords, spokenHeaders_eq h, hdata, List.flatMap_map, furtherWords]
    simp
  have hmethod : unglue ["-X" ++ r.method.name] = ["-X", r.method.name] := by
    cases r.method <;> decide
  have hfurther : unglue (furtherWords r) = furtherWords r := by
    apply unglue_eq_self
    simp only [furtherWords, List.forall_mem_append, List.forall_mem_flatMap]
    refine ⟨?_, fun field hfield => ?_, ?_⟩
    · split
      · exact List.forall_mem_nil _
      · next hbody =>
        exact List.forall_mem_cons.2 ⟨by decide, List.forall_mem_singleton.2 (h.body hbody).unglued⟩
    · have hline := unglued_lineOf (names_fieldsOf h field hfield).2
      exact List.forall_mem_cons.2 ⟨by decide, List.forall_mem_singleton.2 hline⟩
    · exact List.forall_mem_singleton.2 (unglued_of_isUrl (isUrl_fullUri h))
  rw [hwords, unglue_append, unglue_append, hmethod, hfurther]
  rfl

theorem run_furtherWords :
    run .none { method := r.method.name } (furtherWords r) = (.none, draftOf r) := by
  have htail (d : Draft) :
      run .none d ((fieldsOf r).flatMap (fun field => ["-H", lineOf field]) ++ [fullUri r]) =
        (.none, { d with url := some (fullUri r), headers := setAll (fieldsOf r) d.headers }) := by
    rw [run_headerLines d fun field hfield => (names_fieldsOf h field hfield).1, run_cons,
      step_url _ _ (isUrl_fullUri h)]
    rfl
  unfold furtherWords draftOf
  by_cases hbody : r.body = ""
  · rw [if_pos hbody, if_pos hbody, List.nil_append, htail, hbody]
  · obtain ⟨hmethod, -, -, -, hflag, hurl⟩ := h.body hbody
    have hget : r.method.name ≠ "GET" ∧ r.method.name ≠ "HEAD" := by
      revert hmethod
      cases r.method <;> decide
    have hdata : ({ method := r.method.name } : Draft).takeValue .data r.body =
        { method := r.method.name, headers := [("Content-Type", Http.formType)]
          body := r.body } := by
      simp [Draft.takeValue, Draft.addData, hget, Draft.hasContentType, Draft.set, setField]
    rw [if_neg hbody, if_neg hbody, List.cons_append, List.cons_append, List.nil_append,
      run_flag _ (by decide) rfl ⟨hurl, hflag, hbody⟩, hdata, htail]

/-- The words of the command leave the draft of the request. -/
theorem run_words (host : List Char) :
    run .none {} (unglue (spokenWords r host [])) = (.none, draftOf r) := by
  rw [unglue_spokenWords h, run_method, run_furtherWords h]

/-! ### The request -/

theorem typeFields_fieldsOf : typeFields (fieldsOf r) =
    if r.contentType = "" then [] else [("Content-Type", r.contentType)] := by
  have hown : Http.isContentType "Content-Type" = true := by decide
  have hnone : (r.headers.map fun header => (header.key, header.value)).filter
      (fun field => Http.isContentType field.1) = [] := by
    rw [List.filter_eq_nil_iff, List.forall_mem_map]
    intro header hheader
    simp [(h.headers header hheader).2.2.2]
  rw [fieldsOf, typeFields, List.filter_append, hnone, List.nil_append]
  split
  · rfl
  · rw [List.filter_cons, if_pos hown, List.filter_nil]

theorem otherFields_fieldsOf : otherFields (fieldsOf r) =
    r.headers.map fun header => (header.key, header.value) := by
  have hown : Http.isContentType "Content-Type" = true := by decide
  have hall : (r.headers.map fun header => (header.key, header.value)).filter
      (fun field => !Http.isContentType field.1) =
        r.headers.map fun header => (header.key, header.value) := by
    rw [List.filter_eq_self, List.forall_mem_map]
    intro header hheader
    simp [(h.headers header hheader).2.2.2]
  rw [fieldsOf, otherFields, List.filter_append, hall]
  split
  · rw [List.filter_nil, List.append_nil]
  · rw [List.filter_cons, hown, Bool.not_true, if_neg (by decide), List.filter_nil, List.append_nil]

theorem body_of_contentType (htype : r.contentType = "") : r.body = "" := by
  by_contra hbody
  exact (h.body hbody).contentType htype

/-- The content type of the request takes the place of the one that data has set. -/
theorem typeFields_draftOf : typeFields (draftOf r).headers =
    if r.contentType = "" then [] else [("Content-Type", r.contentType)] := by
  have hown : Http.isContentType "Content-Type" = true := by decide
  rw [draftOf, typeFields_setAll, typeFields_fieldsOf h]
  by_cases htype : r.contentType = ""
  · rw [if_pos htype, if_pos (body_of_contentType h htype)]
    rfl
  · rw [if_neg htype]
    split
    · rfl
    · rw [typeFields, List.filter_cons, if_pos hown, List.filter_nil]
      simp [setAll, setField]

theorem otherFields_draftOf : otherFields (draftOf r).headers =
    r.headers.map fun header => (header.key, header.value) := by
  have hbefore :
      otherFields (if r.body = "" then [] else [("Content-Type", Http.formType)]) = [] := by
    split
    · rfl
    · exact List.filter_cons_of_neg (by decide)
  rw [draftOf, otherFields_setAll, otherFields_fieldsOf h, hbefore]
  apply setAll_of_nodup
  rw [List.nil_append, List.map_map]
  exact h.names

theorem contentTypeOf_draftOf : contentTypeOf (draftOf r) = r.contentType := by
  have htypes := typeFields_draftOf h
  by_cases htype : r.contentType = ""
  · rw [if_pos htype] at htypes
    rw [contentTypeOf_of_typeFields_eq_nil htypes (body_of_contentType h htype), htype]
  · rw [if_neg htype] at htypes
    have hlast : (typeFields (draftOf r).headers).getLast? =
        some ("Content-Type", r.contentType) := by
      rw [htypes]
      rfl
    have hstop : r.contentType.toList.takeWhile (· ≠ ';') = r.contentType.toList := by
      rw [List.takeWhile_eq_self_iff]
      intro c hc
      rw [decide_eq_true_eq]
      rintro rfl
      exact h.contentType hc
    rw [contentTypeOf_of_getLast? hlast htype, hstop, String.ofList_toList]

/-- The draft makes the request. -/
theorem requestOf_draftOf {url : Url} (huri : String.ofList (url.origin ++ url.path) = r.uri)
    (hquery : Url.Query.pairs (url.query.getD []) = r.query.map fun p => (p.key, p.value)) :
    requestOf (draftOf r) url = r := by
  have hmethod : (Http.Method.ofAnyCase? (Text.upper r.method.name)).getD .get = r.method := by
    cases r.method <;> decide
  have hback {params : List Http.Parameter} (henabled : ∀ p ∈ params, p.enabled = true) :
      (params.map fun p => (p.key, p.value)).map
        (fun pair => ({ key := pair.1, value := pair.2 } : Http.Parameter)) = params := by
    rw [List.map_map]
    refine (List.map_congr_left fun p hp => ?_).trans (List.map_id params)
    show ({ key := p.key, value := p.value, enabled := true } : Http.Parameter) = p
    rw [← henabled p hp]
  have hheaders := hback fun header hheader => (h.headers header hheader).1
  have hparams := hback fun p hp => (h.query p hp).1
  have hothers : (draftOf r).headers.filter (fun header => !Http.isContentType header.1) =
      r.headers.map fun header => (header.key, header.value) := otherFields_draftOf h
  rw [requestOf, contentTypeOf_draftOf h, hothers, hquery, hheaders, hparams, huri]
  show ({ r with method := (Http.Method.ofAnyCase? (Text.upper r.method.name)).getD .get
                 auth := [] } : Http.Request) = r
  rw [hmethod, ← h.auth]

end

/-- **Import undoes export**: a portable request has a command, and the command makes the
request. -/
theorem parse_of_portable {r : Http.Request} (h : Portable r) :
    ∃ text, render r [] = .ok text ∧ parse text = .ok r := by
  obtain ⟨url, hurl, huri, hquery⟩ := parse?_fullUri h
  refine ⟨_, render_eq_ok_iff.2 ⟨url, hurl, rfl⟩, ?_⟩
  simp only [parse, normalize_wordsOf h, isCommand_wordsOf, words?_wordsOf, if_true, ofWords,
    run_words h]
  have hparsed : ((draftOf r).url.bind fun url => Url.parse? url.toList) = some url := hurl
  rw [hparsed]
  exact congrArg Except.ok (requestOf_draftOf h huri hquery)

/-- A request with quotes, marks and line ends where they may be. -/
def carried : Http.Request :=
  { method := .put, uri := "http://[::1]:8080/a", body := "it's \\", contentType := "text/plain"
    headers := [{ key := "X-", value := "-d 'x': http://a" }, { key := "", value := "" }]
    query := [{ key := "q", value := "a&b=c +\n^é" }, { key := "", value := "" }] }

theorem portable_carried : Portable carried where
  auth := rfl
  address := ⟨⟨"http".toList, some (.v6 [0, 0, 0, 0, 0, 0, 0, 1]), some 8080, "/a".toList, none⟩,
    by decide +kernel, .inl rfl, by decide +kernel⟩
  query := List.forall_mem_cons.2 ⟨⟨rfl, List.all_eq_true.1 (by decide +kernel)⟩,
    List.forall_mem_singleton.2 ⟨rfl, List.all_eq_true.1 (by decide +kernel)⟩⟩
  headers := by decide +kernel
  names := by decide +kernel
  contentType := by decide +kernel
  smooth := by decide +kernel
  body _ := ⟨by decide, by decide, by decide +kernel, by decide +kernel, by decide +kernel,
    by decide +kernel⟩

theorem parse_of_portable_carried :
    Portable carried ∧ ∃ text, render carried [] = .ok text ∧ parse text = .ok carried :=
  ⟨portable_carried, parse_of_portable portable_carried⟩

end Courier.Command
