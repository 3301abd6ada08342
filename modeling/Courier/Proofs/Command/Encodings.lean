import Courier.Proofs.Command.ContentType

/-! The encodings that a command accepts.

The flag for compressed answers gives a header, unless there is one of exactly its name. A header
line gives a header of the name that it has, and this is compared exactly too. So a command with one
such line and the flag has one such header if the line has the name in the flag's own letter case,
and two if it has it in another one, whichever of them comes first (`encodingFields_run`,
`encodings_of_parse`). -/

namespace Courier.Command

/-- Whether a header is for the encodings of the answer. -/
def isAcceptEncoding (name : String) : Bool :=
  Text.sameIgnoringCase name "Accept-Encoding"

/-- The headers for the encodings. -/
def encodingFields (headers : List (String × String)) : List (String × String) :=
  headers.filter fun header => isAcceptEncoding header.1

/-- The fields of the header lines among the words. -/
def givenFields (pending : Pending) (words : List String) : List (String × String) :=
  ((taken pending words).filter (·.1 = .header)).map fun line => readField line.2

/-- The headers for the encodings where header lines give these, with the flag or without it. -/
def withFlag (given : List (String × String)) (compressed : Bool) : List (String × String) :=
  given ++ if compressed ∧ "Accept-Encoding" ∉ given.map Prod.fst then
    [("Accept-Encoding", encodings)] else []

theorem not_isContentType_of_isAcceptEncoding {name : String} (h : isAcceptEncoding name = true) :
    Http.isContentType name = false := by
  rw [Bool.eq_false_iff]
  intro htype
  have hsame := (beq_iff_eq.1 h).symm.trans (beq_iff_eq.1 htype)
  exact absurd hsame (by decide)

theorem encodingFields_setField (name value : String) (headers : List (String × String)) :
    encodingFields (setField name value headers) =
      if isAcceptEncoding name then setField name value (encodingFields headers)
      else encodingFields headers :=
  filter_setField isAcceptEncoding name value headers

theorem givenFields_cons (pending : Pending) (d : Draft) (word : String) (words : List String) :
    givenFields pending (word :: words) =
      givenFields pending [word] ++ givenFields (step pending d word).1 words := by
  simp only [givenFields, taken, List.append_nil, List.filter_append, List.map_append,
    fst_step pending d {}]

/-! ### One word -/

theorem has_iff (d : Draft) :
    d.has "Accept-Encoding" = true ↔ "Accept-Encoding" ∈ (encodingFields d.headers).map Prod.fst := by
  have hname : isAcceptEncoding "Accept-Encoding" = true := by decide
  simp [Draft.has, encodingFields, hname]

/-- Only values and the flag for compressed answers have a part in the headers. -/
theorem headers_step (pending : Pending) (d : Draft) {word : String} (hvalue : ¬IsValue word)
    (hword : word ≠ "--compressed") : (step pending d word).2.headers = d.headers := by
  cases hurl : isUrl word with
  | true => rw [step_url _ _ hurl]
  | false =>
    cases hpending : pendingOf? word with
    | some next => rw [step_flag _ _ hurl hpending]
    | none =>
      simp only [step, hurl, hpending, hword, if_false, Bool.false_eq_true]
      split
      · rfl
      · next hhead =>
        split
        · rfl
        · next hempty =>
          have hflag : isFlag word = false := by simp [isFlag, hpending, hword, not_or.1 hhead]
          exact absurd ⟨hurl, hflag, hempty⟩ hvalue

/-- Only a header line gives a header for the encodings. -/
theorem encodingFields_takeValue (d : Draft) (pending : Pending) (word : String) :
    encodingFields (d.takeValue pending word).headers =
      if pending = .header ∧ isAcceptEncoding (readField word).1 then
        setField (readField word).1 (readField word).2 (encodingFields d.headers)
      else encodingFields d.headers := by
  have hother {name : String} (hname : isAcceptEncoding name = false) (value : String) :
      encodingFields (d.set name value).headers = encodingFields d.headers := by
    rw [Draft.set, encodingFields_setField, hname]
    rfl
  cases pending with
  | header =>
    simp only [Draft.takeValue, Draft.set, encodingFields_setField, true_and]
  | data =>
    simp only [Draft.takeValue, d.addData_eq]
    split
    · rfl
    · exact hother (by decide) Http.formType
  | userAgent => exact hother (by decide) word
  | user => exact hother (by decide) (basic word)
  | cookie => exact hother (by decide) word
  | none | method => rfl

theorem givenFields_value {pending : Pending} {word : String} (h : IsValue word) :
    encodingFields (givenFields pending [word]) =
      if pending = .header ∧ isAcceptEncoding (readField word).1 then [readField word] else [] := by
  by_cases hpending : pending = .header <;>
    by_cases hname : isAcceptEncoding (readField word).1 = true <;>
      simp [givenFields, taken, h, hpending, encodingFields, hname]

theorem givenFields_of_not {pending : Pending} {word : String} (h : ¬IsValue word) :
    givenFields pending [word] = [] := by
  simp [givenFields, taken, h]

/-- The flag gives a header where there is none of its name. -/
theorem perm_compressed {d : Draft} {given : List (String × String)} {compressed : Bool}
    (h : (encodingFields d.headers).Perm (withFlag given compressed)) (pending : Pending) :
    (encodingFields (step pending d "--compressed").2.headers).Perm (withFlag given true) := by
  have hstep : (step pending d "--compressed").2 =
      if d.has "Accept-Encoding" then d else d.set "Accept-Encoding" encodings := rfl
  have hname : isAcceptEncoding "Accept-Encoding" = true := by decide
  rw [hstep]
  by_cases hhas : "Accept-Encoding" ∈ (encodingFields d.headers).map Prod.fst
  · rw [if_pos ((has_iff d).2 hhas)]
    have hmem : "Accept-Encoding" ∈ (withFlag given compressed).map Prod.fst :=
      (h.map Prod.fst).mem_iff.1 hhas
    by_cases hgiven : "Accept-Encoding" ∈ given.map Prod.fst
    · simpa [withFlag, hgiven] using h
    · cases compressed with
      | true => exact h
      | false => exact absurd hmem (by simpa [withFlag] using hgiven)
  · rw [if_neg fun hd => hhas ((has_iff d).1 hd), Draft.set, encodingFields_setField, if_pos hname,
      setField_of_notMem _ hhas]
    have hnot : "Accept-Encoding" ∉ (withFlag given compressed).map Prod.fst :=
      fun hmem => hhas ((h.map Prod.fst).mem_iff.2 hmem)
    have hgiven : "Accept-Encoding" ∉ given.map Prod.fst :=
      fun hmem => hnot (by rw [withFlag, List.map_append]; exact List.mem_append_left _ hmem)
    cases compressed with
    | true => exact absurd (by simp [withFlag, hgiven]) hnot
    | false =>
      rw [withFlag, if_pos ⟨rfl, hgiven⟩]
      exact List.Perm.append_right _ (by simpa [withFlag] using h)

/-- A header line gives the one header of its name. -/
theorem perm_line {headers : List (String × String)} {compressed : Bool}
    (h : headers.Perm (withFlag [] compressed)) (field : String × String) :
    (setField field.1 field.2 headers).Perm (withFlag [field] compressed) := by
  cases compressed with
  | false =>
    rw [List.Perm.eq_nil (l := headers) h]
    exact List.Perm.refl _
  | true =>
    have hflag : headers = [("Accept-Encoding", encodings)] := List.perm_singleton.1 h
    rw [hflag, setField]
    by_cases hname : "Accept-Encoding" = field.1
    · simp [withFlag, hname]
    · rw [if_neg hname, withFlag, if_pos ⟨rfl, by simpa using hname⟩]
      exact List.Perm.swap ..

theorem perm_step {d : Draft} {pending : Pending} {word : String} {given : List (String × String)}
    {compressed : Bool} (h : (encodingFields d.headers).Perm (withFlag given compressed))
    (hone : (given ++ encodingFields (givenFields pending [word])).length ≤ 1) :
    (encodingFields (step pending d word).2.headers).Perm
      (withFlag (given ++ encodingFields (givenFields pending [word]))
        (compressed || word = "--compressed")) := by
  by_cases hvalue : IsValue word
  · have hne : word ≠ "--compressed" := by
      rintro rfl
      exact absurd hvalue (by decide)
    rw [step_value _ _ hvalue, encodingFields_takeValue]
    rw [givenFields_value hvalue] at hone ⊢
    simp only [hne, decide_false, Bool.or_false]
    by_cases hline : pending = .header ∧ isAcceptEncoding (readField word).1 = true
    · rw [if_pos hline] at hone ⊢
      obtain rfl : given = [] := List.length_eq_zero_iff.1 (by simpa using hone)
      rw [if_pos hline]
      exact perm_line h (readField word)
    · rw [if_neg hline, if_neg hline, List.append_nil]
      exact h
  · rw [givenFields_of_not hvalue]
    by_cases hword : word = "--compressed"
    · subst hword
      simpa [encodingFields] using perm_compressed h pending
    · rw [headers_step pending d hvalue hword]
      simpa [encodingFields, hword] using h

/-! ### Commands -/

/-- The headers for the encodings behind words with one header line for them at most. -/
theorem encodingFields_run {d : Draft} {pending : Pending} {words : List String}
    {given : List (String × String)} {compressed : Bool}
    (h : (encodingFields d.headers).Perm (withFlag given compressed))
    (hone : (given ++ encodingFields (givenFields pending words)).length ≤ 1) :
    (encodingFields (run pending d words).2.headers).Perm
      (withFlag (given ++ encodingFields (givenFields pending words))
        (compressed || "--compressed" ∈ words)) := by
  induction words generalizing d pending given compressed with
  | nil => simpa [givenFields, taken, encodingFields, run] using h
  | cons word words ih =>
    have hgiven : given ++ encodingFields (givenFields pending (word :: words)) =
        given ++ encodingFields (givenFields pending [word]) ++
          encodingFields (givenFields (step pending d word).1 words) := by
      rw [givenFields_cons pending d, encodingFields, List.filter_append, List.append_assoc]
      rfl
    rw [hgiven] at hone ⊢
    have hfirst : (given ++ encodingFields (givenFields pending [word])).length ≤ 1 := by
      rw [List.length_append] at hone
      omega
    have hwords : (compressed || decide ("--compressed" ∈ word :: words)) =
        ((compressed || decide (word = "--compressed")) || decide ("--compressed" ∈ words)) := by
      simp [Bool.or_assoc, eq_comm]
    rw [run_cons, hwords]
    exact ih (perm_step h hfirst) hone

/-- The request shows the headers for the encodings as they are. -/
theorem filter_headers (d : Draft) (url : Url) :
    (requestOf d url).headers.filter (isAcceptEncoding ·.key) =
      (encodingFields d.headers).map fun (key, value) => { key, value } := by
  have hboth : (otherFields d.headers).filter (fun header => isAcceptEncoding header.1) =
      encodingFields d.headers := by
    rw [otherFields, List.filter_filter]
    refine List.filter_congr fun header _ => ?_
    cases hname : isAcceptEncoding header.1 with
    | false => rfl
    | true => rw [not_isContentType_of_isAcceptEncoding hname]; rfl
  have hheaders : (requestOf d url).headers =
      (otherFields d.headers).map fun (key, value) => { key, value } := rfl
  rw [hheaders, List.filter_map, ← hboth]
  rfl

/-- **The encodings that a command accepts.** Let it have one header line for them at most. The
request has the header of that line. It has one more, that of the flag, if the command has the flag
and no line of exactly the flag's name; so there is a second one where the line has the name in
another letter case, and nowhere else. -/
theorem encodings_of_parse {text : String} {r : Http.Request} {words : List String}
    (h : parse text = .ok r) (hwords : Shell.words? (normalize text) = some words)
    (hone : (encodingFields (givenFields .none (unglue words))).length ≤ 1) :
    let given := encodingFields (givenFields .none (unglue words))
    let shown := r.headers.filter (isAcceptEncoding ·.key)
    shown.Perm ((withFlag given ("--compressed" ∈ unglue words)).map
        fun (key, value) => { key, value }) ∧
      (shown.length ≤ 1 ↔
        ∀ field ∈ given, "--compressed" ∈ unglue words → field.1 = "Accept-Encoding") ∧
      ∀ field ∈ given, { key := field.1, value := field.2 } ∈ shown := by
  intro given shown
  obtain ⟨others, url, hothers, rfl⟩ := exists_of_parse h
  cases hwords.symm.trans hothers
  have hempty : (encodingFields ({} : Draft).headers).Perm (withFlag [] false) := List.Perm.refl _
  have hrun : (encodingFields (run .none {} (unglue words)).2.headers).Perm
      (withFlag given ("--compressed" ∈ unglue words)) := by
    have hfields : ([] ++ given).length ≤ 1 := hone
    simpa using encodingFields_run hempty hfields
  have hshown : shown.Perm ((withFlag given ("--compressed" ∈ unglue words)).map
      fun (key, value) => { key, value }) := by
    simp only [shown, filter_headers]
    exact hrun.map _
  refine ⟨hshown, ?_, fun field hfield => ?_⟩
  · have hgiven : given.length ≤ 1 := hone
    rw [hshown.length_eq, List.length_map]
    generalize given = fields at hgiven ⊢
    match fields, hgiven with
    | [], _ => by_cases hflag : "--compressed" ∈ unglue words <;> simp [withFlag, hflag]
    | [field], _ =>
      by_cases hflag : "--compressed" ∈ unglue words <;>
        by_cases hname : field.1 = "Accept-Encoding" <;>
          simp [withFlag, hflag, hname, eq_comm (a := "Accept-Encoding")]
  · rw [hshown.mem_iff]
    exact List.mem_map_of_mem (List.mem_append_left _ hfield)

/-- The flag adds a second header where the line has the name in another letter case. -/
theorem compressed_adds :
    ¬∀ (text : String) (words : List String) (r : Http.Request), parse text = .ok r →
      Shell.words? (normalize text) = some words →
      (encodingFields (givenFields .none (unglue words))).length ≤ 1 →
        (r.headers.filter (isAcceptEncoding ·.key)).length ≤ 1 := by
  intro h
  have hparse : parse "curl -H accept-encoding:br --compressed http://[::1]/" =
      .ok { method := .get, uri := "http://[::1]/", headers := [
        { key := "accept-encoding", value := "br" },
        { key := "Accept-Encoding", value := "deflate, gzip" }] } := by
    decide +kernel
  have hone := h _ ["curl", "-H", "accept-encoding:br", "--compressed", "http://[::1]/"] _ hparse
    (by decide +kernel) (by decide)
  exact absurd hone (by decide)

end Courier.Command
