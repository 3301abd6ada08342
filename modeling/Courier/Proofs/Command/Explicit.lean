import Courier.Proofs.Command.Items
import Courier.Proofs.Command.Reading

/-! Content types that a command gives.

The headers of a draft are those for the content type and the others, and no item looks from one
side to the other (`otherFields_headers`, `typeFields_headers`). Data sets a content type where none
is given, under one name; a header line that gives one comes behind it or in its place, and from
then on the last content type stays. Hence `contentType_of_madeOf`: the content type that one header
line of a command gives is that of the request, and it does not matter where the line stands. -/

namespace Courier.Command

/-! ### Commands and their items -/

/-- The text is a command that is made of these items. Empty words say nothing. -/
structure MadeOf (text : String) (items : List Item) : Prop where
  command : isCommand (normalize text) = true
  words : ∃ words, Shell.words? (normalize text) = some words ∧
    (unglue words).filter (· ≠ "") = items.flatMap Item.words

/-- The request of a draft. -/
def Draft.request (d : Draft) : Except Error Http.Request :=
  match d.url.bind fun url => Url.parse? url.toList with
  | none => .error .invalidText
  | some url => .ok (requestOf d url)

/-- A command makes the request of what its items say. -/
theorem MadeOf.parse_eq {text : String} {items : List Item} (h : MadeOf text items) :
    parse text = (({} : Draft).after items).request := by
  obtain ⟨words, hwords, hitems⟩ := h.words
  have hrun : run .none {} (unglue words) = (.none, ({} : Draft).after items) := by
    rw [← run_filter, hitems, run_items]
    rfl
  simp only [parse, h.command, if_true, hwords, ofWords, hrun]
  rfl

/-! ### Headers for the content type, and others -/

/-- A request shows the other headers as they are, and the content type by itself. -/
theorem Draft.request_congr {d d' : Draft} (hurl : d.url = d'.url) (hmethod : d.method = d'.method)
    (hbody : d.body = d'.body) (htype : contentTypeOf d = contentTypeOf d')
    (hothers : otherFields d.headers = otherFields d'.headers) : d.request = d'.request := by
  have hrequest (url : Url) : requestOf d url = requestOf d' url := by
    have hshown (d : Draft) : (requestOf d url).headers =
        (otherFields d.headers).map fun header => { key := header.1, value := header.2 } := rfl
    have hheaders : (requestOf d url).headers = (requestOf d' url).headers := by
      rw [hshown, hothers, ← hshown]
    simp only [requestOf] at hheaders ⊢
    rw [hheaders, hmethod, hbody, htype]
  simp only [request, hurl, hrequest]

/-- An item puts its fields into the headers. -/
theorem headers_eq_setAll (before : List (String × String)) (item : Item) :
    item.headers before = setAll (item.fields (before.map Prod.fst)) before := by
  simp only [Item.headers, setAll, setField_eq]

/-! ### Other headers -/

/-- Which other fields an item has does not depend on the headers for the content type. -/
theorem otherFields_fields (item : Item) (before : List (String × String)) :
    otherFields (item.fields (before.map Prod.fst)) =
      otherFields (item.fields ((otherFields before).map Prod.fst)) := by
  cases item with
  | compressed =>
    have hnames : "Accept-Encoding" ∈ before.map Prod.fst ↔
        "Accept-Encoding" ∈ (otherFields before).map Prod.fst := by
      have hother : Http.isContentType "Accept-Encoding" = false := by decide
      simp [otherFields, hother]
    simp only [Item.fields, hnames]
  | option kind flag value hflag hvalue =>
    cases kind with
    | data =>
      have hnone (names : List String) :
          otherFields ((Item.option .data flag value hflag hvalue).fields names) = [] := by
        unfold Item.fields
        dsimp only
        split <;> rfl
      rw [hnone, hnone]
    | _ => rfl
  | _ => rfl

theorem otherFields_headers (item : Item) (before : List (String × String)) :
    otherFields (item.headers before) =
      setAll (otherFields (item.fields ((otherFields before).map Prod.fst))) (otherFields before) := by
  rw [headers_eq_setAll, otherFields_setAll, otherFields_fields]

/-- Where the other headers are the same, they stay the same. -/
theorem otherFields_foldl {before before' : List (String × String)}
    (h : otherFields before = otherFields before') (items : List Item) :
    otherFields (items.foldl Item.headers before) =
      otherFields (items.foldl Item.headers before') := by
  induction items generalizing before before' with
  | nil => exact h
  | cons item items ih => exact ih (by rw [otherFields_headers, otherFields_headers, h])

/-! ### Headers for the content type -/

/-- The item is a header line that gives a content type. -/
def Item.givesType : Item → Bool
  | option .header _ line _ _ => Http.isContentType (fieldOf line).1
  | _ => false

theorem typeFields_headers (item : Item) (before : List (String × String)) :
    typeFields (item.headers before) =
      setAll (typeFields (item.fields (before.map Prod.fst))) (typeFields before) := by
  rw [headers_eq_setAll, typeFields_setAll]

/-- The content type of forms, if data has set it, or none. -/
def IsImplied (fields : List (String × String)) : Prop :=
  fields = [] ∨ fields = [("Content-Type", Http.formType)]

/-- But for a header line, only data sets a content type, and only where there is none. -/
theorem typeFields_fields {item : Item} (h : item.givesType = false)
    (before : List (String × String)) :
    IsImplied (typeFields (item.fields (before.map Prod.fst))) ∧
      (typeFields before ≠ [] → typeFields (item.fields (before.map Prod.fst)) = []) := by
  suffices hcases : typeFields (item.fields (before.map Prod.fst)) = [] ∨
      typeFields before = [] ∧ typeFields (item.fields (before.map Prod.fst)) =
        [("Content-Type", Http.formType)] by
    rcases hcases with hnone | ⟨hempty, himplied⟩
    · exact ⟨.inl hnone, fun _ => hnone⟩
    · exact ⟨.inr himplied, fun hne => absurd hempty hne⟩
  have hplain {name : String} (hname : Http.isContentType name = false) (value : String) :
      typeFields [(name, value)] = [] := List.filter_cons_of_neg (by simp [hname])
  cases item with
  | compressed =>
    unfold Item.fields
    dsimp only
    split
    · exact .inl rfl
    · exact .inl (hplain (by decide) _)
  | option kind flag value hflag hvalue =>
    cases kind with
    | none => cases hflag
    | header => exact .inl (hplain h _)
    | userAgent => exact .inl (hplain (by decide) _)
    | user => exact .inl (hplain (by decide) _)
    | cookie => exact .inl (hplain (by decide) _)
    | method => exact .inl rfl
    | data =>
      unfold Item.fields
      dsimp only
      split
      · exact .inl rfl
      · next hnames =>
        have hempty : typeFields before = [] := by
          simpa [typeFields] using hnames
        exact .inr ⟨hempty, rfl⟩
  | url | stray | head => exact .inl rfl

theorem isImplied_foldl {items : List Item} (h : ∀ item ∈ items, item.givesType = false)
    {before : List (String × String)} (hbefore : IsImplied (typeFields before)) :
    IsImplied (typeFields (items.foldl Item.headers before)) := by
  induction items generalizing before with
  | nil => exact hbefore
  | cons item items ih =>
    obtain ⟨hitem, hitems⟩ := List.forall_mem_cons.1 h
    obtain ⟨himplied, hkept⟩ := typeFields_fields hitem before
    refine ih hitems ?_
    rw [typeFields_headers]
    rcases hbefore with hempty | hform
    · rw [hempty]
      rcases himplied with hnone | hsome
      · rw [hnone]
        exact .inl rfl
      · rw [hsome]
        exact .inr rfl
    · rw [hkept (by simp [hform]), hform]
      exact .inr rfl

/-- A content type that is there stays. -/
theorem typeFields_foldl {items : List Item} (h : ∀ item ∈ items, item.givesType = false)
    {before : List (String × String)} (hbefore : typeFields before ≠ []) :
    typeFields (items.foldl Item.headers before) = typeFields before := by
  induction items generalizing before with
  | nil => rfl
  | cons item items ih =>
    obtain ⟨hitem, hitems⟩ := List.forall_mem_cons.1 h
    have hkept : typeFields (item.headers before) = typeFields before := by
      rw [typeFields_headers, (typeFields_fields hitem before).2 hbefore]
      rfl
    rw [List.foldl_cons, ih hitems (by rwa [hkept]), hkept]

/-! ### A header line for the content type -/

section
variable {flag line : String} (hflag : flag ∈ spellings .header) (hline : IsValue line)
  (hname : Http.isContentType (fieldOf line).1 = true)
include hname

/-- It leaves the other headers. -/
theorem otherFields_typeLine (before : List (String × String)) :
    otherFields ((Item.option .header flag line hflag hline).headers before) =
      otherFields before := by
  have hnone : otherFields [fieldOf line] = [] := List.filter_cons_of_neg (by simp [hname])
  rw [otherFields_headers]
  exact congrArg (setAll · (otherFields before)) hnone

/-- It is the last one for the content type then, in the place of the one that data has set or
behind it. -/
theorem getLast?_typeLine {before : List (String × String)}
    (hbefore : IsImplied (typeFields before)) :
    (typeFields ((Item.option .header flag line hflag hline).headers before)).getLast? =
      some (fieldOf line) := by
  have hfields : typeFields [fieldOf line] = [fieldOf line] := List.filter_cons_of_pos hname
  have hset : typeFields ((Item.option .header flag line hflag hline).headers before) =
      setField (fieldOf line).1 (fieldOf line).2 (typeFields before) := by
    rw [typeFields_headers]
    exact congrArg (setAll · (typeFields before)) hfields
  rw [hset]
  rcases hbefore with hempty | hform
  · rw [hempty]
    rfl
  · rw [hform, setField]
    split <;> rfl

variable {front back : List Item} (honly : ∀ item ∈ front ++ back, item.givesType = false)
include honly

/-- What the items make with the line among them. -/
theorem headers_around (before : List (String × String))
    (hbefore : IsImplied (typeFields before)) :
    let headers := (front ++ .option .header flag line hflag hline :: back).foldl Item.headers before
    (typeFields headers).getLast? = some (fieldOf line) ∧
      otherFields headers = otherFields ((front ++ back).foldl Item.headers before) := by
  obtain ⟨hfront, hback⟩ := List.forall_mem_append.1 honly
  have hlast := getLast?_typeLine hflag hline hname (isImplied_foldl hfront hbefore)
  have hne : typeFields ((Item.option .header flag line hflag hline).headers
      (front.foldl Item.headers before)) ≠ [] := by
    intro hnil
    rw [hnil] at hlast
    cases hlast
  intro headers
  have hheaders : headers = back.foldl Item.headers ((Item.option .header flag line hflag
      hline).headers (front.foldl Item.headers before)) := by
    simp [headers, List.foldl_append]
  rw [hheaders, typeFields_foldl hback hne, List.foldl_append]
  exact ⟨hlast, otherFields_foldl (otherFields_typeLine hflag hline hname _) back⟩

end

/-! ### Where the line stands -/

section
variable {flag line : String} (hflag : flag ∈ spellings .header) (hline : IsValue line)

/-- A header line has no part in the URL, in the method and in the body. -/
theorem after_typeLine (d : Draft) (front back : List Item) :
    let around := d.after (front ++ .option .header flag line hflag hline :: back)
    around.url = (d.after (front ++ back)).url ∧ around.method = (d.after (front ++ back)).method ∧
      around.body = (d.after (front ++ back)).body := by
  have hpass {f : Item → Option String}
      (hf : f (.option .header flag line hflag hline) = none) :
      (front ++ .option .header flag line hflag hline :: back).filterMap f =
        (front ++ back).filterMap f := by
    rw [List.filterMap_append, List.filterMap_cons_none hf, List.filterMap_append]
  simp only [Draft.after, bodyParts, hpass (f := Item.url?) rfl, hpass (f := Item.data?) rfl,
    List.foldl_append, List.foldl_cons, Item.method, and_self]

variable (hname : Http.isContentType (fieldOf line).1 = true) (hvalue : (fieldOf line).2 ≠ "")
  {front back : List Item} (honly : ∀ item ∈ front ++ back, item.givesType = false)
include hname hvalue honly

theorem contentTypeOf_around :
    contentTypeOf (({} : Draft).after (front ++ .option .header flag line hflag hline :: back)) =
      String.ofList ((fieldOf line).2.toList.takeWhile (· ≠ ';')) :=
  contentTypeOf_of_getLast? (headers_around hflag hline hname honly [] (.inl rfl)).1 hvalue

/-- The line may be moved. -/
theorem request_around {before after : List Item} (h : before ++ after = front ++ back) :
    (({} : Draft).after (before ++ .option .header flag line hflag hline :: after)).request =
      (({} : Draft).after (front ++ .option .header flag line hflag hline :: back)).request := by
  have honly' : ∀ item ∈ before ++ after, item.givesType = false := h ▸ honly
  obtain ⟨hurl, hmethod, hbody⟩ := after_typeLine hflag hline {} before after
  obtain ⟨hurl', hmethod', hbody'⟩ := after_typeLine hflag hline {} front back
  apply Draft.request_congr
  · rw [hurl, hurl', h]
  · rw [hmethod, hmethod', h]
  · rw [hbody, hbody', h]
  · rw [contentTypeOf_around hflag hline hname hvalue honly',
      contentTypeOf_around hflag hline hname hvalue honly]
  · have hothers := (headers_around hflag hline hname honly' [] (.inl rfl)).2
    rw [h] at hothers
    exact hothers.trans (headers_around hflag hline hname honly [] (.inl rfl)).2.symm

end

/-- **The content type that a command gives.** If one header line of a command gives a content type,
the request has this one up to its parameters, and the request is the same wherever the line stands
among the other items. -/
theorem contentType_of_madeOf {text : String} {r : Http.Request} {front back : List Item}
    {flag line : String} {hflag : flag ∈ spellings .header} {hline : IsValue line}
    (hname : Http.isContentType (fieldOf line).1 = true) (hvalue : (fieldOf line).2 ≠ "")
    (honly : ∀ item ∈ front ++ back, item.givesType = false)
    (hmade : MadeOf text (front ++ .option .header flag line hflag hline :: back))
    (h : parse text = .ok r) :
    r.contentType = String.ofList ((fieldOf line).2.toList.takeWhile (· ≠ ';')) ∧
      ∀ (moved : String) (before after : List Item), before ++ after = front ++ back →
        MadeOf moved (before ++ .option .header flag line hflag hline :: after) →
          parse moved = .ok r := by
  constructor
  · obtain ⟨url, rfl⟩ : ∃ url, r = requestOf (({} : Draft).after
        (front ++ .option .header flag line hflag hline :: back)) url := by
      rw [hmade.parse_eq, Draft.request] at h
      split at h
      · cases h
      · next url _ => exact ⟨url, (Except.ok.inj h).symm⟩
    exact contentTypeOf_around hflag hline hname hvalue honly
  · intro moved before after hitems hmoved
    rw [hmoved.parse_eq, request_around hflag hline hname hvalue honly hitems, ← hmade.parse_eq, h]

/-- Data makes a form, and the line behind it a text. In front of the data it says the same. -/
theorem contentType_of_madeOf_behind :
    let text := "curl -d [1] -H content-type:a/b;c http://[::1]/"
    let moved := "$ curl.exe -H 'content-type:a/b;c' \\\n -d [1] http://[::1]/"
    let r : Http.Request :=
      { method := .post, uri := "http://[::1]/", body := "[1]", contentType := "a/b" }
    parse text = .ok r ∧ parse moved = .ok r := by
  intro text moved r
  let name : Item := .stray "curl" (by decide)
  let data : Item := .option .data "-d" "[1]" (by decide) (by decide)
  let url : Item := .url "http://[::1]/" (by decide)
  have hmade : MadeOf text
      ([name, data] ++ .option .header "-H" "content-type:a/b;c" (by decide) (by decide) :: [url]) :=
    ⟨by decide +kernel, ["curl", "-d", "[1]", "-H", "content-type:a/b;c", "http://[::1]/"],
      by decide +kernel, by decide⟩
  have hmoved : MadeOf moved
      ([name] ++ .option .header "-H" "content-type:a/b;c" (by decide) (by decide) :: [data, url]) :=
    ⟨by decide +kernel, ["curl", "-H", "content-type:a/b;c", "-d", "[1]", "http://[::1]/"],
      by decide +kernel, by decide⟩
  have hparse : parse text = .ok r := by decide +kernel
  obtain ⟨-, hmove⟩ := contentType_of_madeOf (by decide) (by decide) (by decide) hmade hparse
  exact ⟨hparse, hmove moved [name] [data, url] rfl hmoved⟩

end Courier.Command
