import Mathlib.Data.List.TakeWhile
import Courier.Proofs.Command.Step

/-! What the options of a command say.

A command is a list of *items*: URLs, words that mean nothing, and options, each with its value if
its flag has one. An item means the same wherever it stands. It has a part in the URL, in the
method, in the headers or in the body of the request, and each of these is told from the items
without regard to the others (`Draft.after`). `run_items`: the machine that reads the words of the
items one after the other, with a flag in mind or none, comes to the same. -/

namespace Courier.Command

/-! ### Flags -/

/-- The spellings of the flag whose value is for this. -/
def spellings : Pending → List String
  | .none => []
  | .header => ["-H", "--header"]
  | .userAgent => ["-A", "--user-agent"]
  | .data => ["-d", "--data", "--data-ascii", "--data-raw", "--data-binary"]
  | .user => ["-u", "--user"]
  | .method => ["-X", "--request"]
  | .cookie => ["-b", "--cookie"]

theorem mem_spellings_iff {flag : String} {kind : Pending} :
    flag ∈ spellings kind ↔ pendingOf? flag = some kind := by
  constructor
  · intro h
    have hall : ∀ kind, ∀ flag ∈ spellings kind, pendingOf? flag = some kind := by
      intro kind
      cases kind <;> decide
    exact hall kind flag h
  · intro h
    unfold pendingOf? at h
    split at h <;> cases h <;> simp [spellings]

theorem isUrl_of_mem_spellings {flag : String} {kind : Pending} (h : flag ∈ spellings kind) :
    isUrl flag = false := by
  have hall : ∀ kind, ∀ flag ∈ spellings kind, isUrl flag = false := by
    intro kind
    cases kind <;> decide
  exact hall kind flag h

/-! ### Items -/

/-- A complete part of a command. -/
inductive Item where
  | url (word : String) (h : isUrl word = true)
  /-- A word that no flag waits for. -/
  | stray (word : String) (h : IsValue word)
  | head (flag : String) (h : flag ∈ ["-I", "--head"])
  | compressed
  | option (kind : Pending) (flag value : String) (hflag : flag ∈ spellings kind)
      (hvalue : IsValue value)

/-- A header line cut at its first colon. A space behind the colon goes with it. -/
def fieldOf (line : String) : String × String :=
  let name := line.toList.takeWhile (· ≠ ':')
  let value := line.toList.drop (name.length + 1)
  (String.ofList name, String.ofList (if value.head? = some ' ' then value.tail else value))

/-- Gives a header its value: in its place, or at the end if there is none of its name. -/
def assign (headers : List (String × String)) (field : String × String) : List (String × String) :=
  match headers.findIdx? (·.1 = field.1) with
  | some place => headers.set place field
  | none => headers ++ [field]

namespace Item

def words : Item → List String
  | url word _ => [word]
  | stray word _ => [word]
  | head flag _ => [flag]
  | compressed => ["--compressed"]
  | option _ flag value _ _ => [flag, value]

def url? : Item → Option String
  | url word _ => some word
  | _ => none

def data? : Item → Option String
  | option .data _ value _ _ => some value
  | _ => none

/-- The method behind the item. -/
def method (before : String) : Item → String
  | head _ _ => "HEAD"
  | option .method _ value _ _ => value
  | option .data _ _ _ _ => if before = "GET" ∨ before = "HEAD" then "POST" else before
  | _ => before

/-- The headers that the item sets where there are headers of these names. -/
def fields (names : List String) : Item → List (String × String)
  | compressed => if "Accept-Encoding" ∈ names then [] else [("Accept-Encoding", "deflate, gzip")]
  | option .header _ line _ _ => [fieldOf line]
  | option .userAgent _ agent _ _ => [("User-Agent", agent)]
  | option .user _ user _ _ => [("Authorization", "Basic " ++ Base64.encode (Utf8.bytes user))]
  | option .cookie _ cookie _ _ => [("Set-Cookie", cookie)]
  | option .data _ _ _ _ =>
    if ∃ name ∈ names, Http.isContentType name then [] else [("Content-Type", Http.formType)]
  | _ => []

/-- The headers behind the item. -/
def headers (before : List (String × String)) (item : Item) : List (String × String) :=
  (item.fields (before.map Prod.fst)).foldl assign before

end Item

/-- The texts that a body with data behind it is joined from. -/
def bodyParts (body : String) (items : List Item) : List String :=
  (if body = "" then [] else [body]) ++ items.filterMap Item.data?

/-- The draft that the items make of another one: the last URL counts, data comes behind the body,
and the method and the headers go through the items from left to right. -/
def Draft.after (d : Draft) (items : List Item) : Draft where
  url := (items.filterMap Item.url?).getLast?.or d.url
  method := items.foldl Item.method d.method
  headers := items.foldl Item.headers d.headers
  body := "&".intercalate (bodyParts d.body items)

/-! ### What an item means by itself -/

theorem readField_eq (line : String) : readField line = fieldOf line := by
  have hkept {cs : List Char} (h : ':' ∉ cs) : ∀ c ∈ cs, decide (c ≠ ':') = true :=
    fun c hc => decide_eq_true fun he => h (he ▸ hc)
  by_cases hcolon : ':' ∈ line.toList
  · obtain ⟨name, value, hline, hname⟩ := List.eq_append_cons_of_mem hcolon
    have htake : line.toList.takeWhile (· ≠ ':') = name := by
      rw [hline, List.takeWhile_append_of_pos (hkept hname)]
      simp
    have hdrop : line.toList.drop (name.length + 1) = value := by
      rw [hline]
      simp
    simp only [readField, fieldOf, htake, hdrop]
    rw [hline, Text.cut?_append_cons hname]
    cases value with
    | nil => rfl
    | cons c value =>
      by_cases hc : c = ' '
      · subst hc
        rfl
      · simp [hc]
  · have htake : line.toList.takeWhile (· ≠ ':') = line.toList :=
      List.takeWhile_eq_self_iff.2 (hkept hcolon)
    simp only [readField, fieldOf, htake, Text.cut?_eq_none hcolon]
    simp

theorem setField_eq (name value : String) (headers : List (String × String)) :
    setField name value headers = assign headers (name, value) := by
  induction headers with
  | nil => rfl
  | cons header rest ih =>
    rw [setField, assign, List.findIdx?_cons]
    by_cases hname : header.1 = name
    · simp [hname]
    · rw [if_neg hname, ih, assign]
      simp only [hname]
      cases rest.findIdx? (·.1 = name) <;> simp

theorem toList_intercalate_cons (part : String) (parts : List String) :
    ("&".intercalate (part :: parts)).toList =
      part.toList ++ parts.flatMap fun more => '&' :: more.toList := by
  rw [String.toList_intercalate, List.map_cons]
  show ['&'].intercalate (part.toList :: parts.map String.toList) = _
  rw [Text.intercalate_cons, List.flatMap_map]

/-- Texts are joined to nothing only if there are none, empty texts apart. -/
theorem intercalate_ne_empty {parts : List String} (h : ∀ part ∈ parts, part ≠ "")
    (hne : parts ≠ []) : "&".intercalate parts ≠ "" := by
  obtain ⟨part, parts, rfl⟩ := List.exists_cons_of_ne_nil hne
  intro hjoined
  have hlist := congrArg String.toList hjoined
  rw [toList_intercalate_cons] at hlist
  have hpart : part.toList = [] := (List.append_eq_nil_iff.1 hlist).1
  exact h part List.mem_cons_self (String.toList_eq_nil_iff.1 hpart)

/-- Texts that are joined already may be joined with others. -/
theorem intercalate_intercalate {parts : List String} (hne : parts ≠ []) (more : List String) :
    "&".intercalate ("&".intercalate parts :: more) = "&".intercalate (parts ++ more) := by
  obtain ⟨part, parts, rfl⟩ := List.exists_cons_of_ne_nil hne
  rw [← String.toList_inj, List.cons_append, toList_intercalate_cons, toList_intercalate_cons,
    toList_intercalate_cons, List.flatMap_append, List.append_assoc]

theorem bodyParts_ne_empty (body : String) (items : List Item) :
    ∀ part ∈ bodyParts body items, part ≠ "" := by
  refine List.forall_mem_append.2 ⟨fun part hpart => ?_, fun data hdata => ?_⟩
  · split at hpart
    · cases hpart
    · next hbody =>
      rw [List.mem_singleton.1 hpart]
      exact hbody
  · obtain ⟨item, -, hitem⟩ := List.mem_filterMap.1 hdata
    unfold Item.data? at hitem
    split at hitem
    · next hvalue =>
      cases hitem
      exact hvalue.nonempty
    · cases hitem

theorem bodyParts_intercalate (body : String) (items more : List Item) :
    "&".intercalate (bodyParts ("&".intercalate (bodyParts body items)) more) =
      "&".intercalate (bodyParts body (items ++ more)) := by
  have hparts : bodyParts body (items ++ more) = bodyParts body items ++ more.filterMap Item.data? := by
    rw [bodyParts, bodyParts, List.filterMap_append, List.append_assoc]
  rw [hparts]
  by_cases hnil : bodyParts body items = []
  · rw [hnil]
    rfl
  · rw [bodyParts, if_neg (intercalate_ne_empty (bodyParts_ne_empty body items) hnil)]
    exact intercalate_intercalate hnil _

/-- Items may be taken in two steps. -/
theorem Draft.after_append (d : Draft) (items more : List Item) :
    (d.after items).after more = d.after (items ++ more) := by
  simp only [Draft.after, bodyParts_intercalate, List.filterMap_append, List.foldl_append,
    List.getLast?_append, Option.or_assoc]

/-! ### The machine -/

theorem intercalate_bodyParts_nil (body : String) : "&".intercalate (bodyParts body []) = body := by
  unfold bodyParts
  split
  · next hempty => exact hempty.symm
  · simp

theorem Draft.after_nil (d : Draft) : d.after [] = d := by
  rw [Draft.after, intercalate_bodyParts_nil]
  rfl

/-- An item that is no URL and no data leaves the URL and the body. -/
theorem Draft.after_other (d : Draft) {item : Item} (hurl : item.url? = none)
    (hdata : item.data? = none) :
    d.after [item] = { d with method := item.method d.method, headers := item.headers d.headers } := by
  have hbody : bodyParts d.body [item] = bodyParts d.body [] := by
    rw [bodyParts, List.filterMap_cons_none hdata, bodyParts]
  rw [Draft.after, hbody, intercalate_bodyParts_nil, List.filterMap_cons_none hurl]
  rfl

theorem Draft.set_eq (d : Draft) (name value : String) :
    d.set name value = { d with headers := assign d.headers (name, value) } := by
  rw [Draft.set, setField_eq]

/-- A header that is set unless there is one already. -/
theorem assign_unless (headers : List (String × String)) {found : Bool} {p : Prop} [Decidable p]
    (h : found = true ↔ p) (field : String × String) :
    (if found then headers else assign headers field) =
      (if p then [] else [field]).foldl assign headers := by
  by_cases hp : p
  · rw [if_pos (h.2 hp), if_pos hp]
    rfl
  · rw [if_neg (mt h.1 hp), if_neg hp]
    rfl

theorem Draft.addData_eq_after (d : Draft) {flag data : String} (hflag : flag ∈ spellings .data)
    (hdata : IsValue data) : d.addData data = d.after [.option .data flag data hflag hdata] := by
  have hnames : d.hasContentType = true ↔
      ∃ name ∈ d.headers.map Prod.fst, Http.isContentType name = true := by
    simp [Draft.hasContentType]
  have hbody : (if d.body = "" then data else d.body ++ "&" ++ data) =
      "&".intercalate (bodyParts d.body [.option .data flag data hflag hdata]) := by
    rw [bodyParts]
    split <;> simp [Item.data?]
  rw [d.addData_eq, setField_eq, assign_unless d.headers hnames, hbody]
  rfl

/-- The words of an item, read with no flag in mind, leave what the item says. -/
theorem run_item (d : Draft) (item : Item) : run .none d item.words = (.none, d.after [item]) := by
  cases item with
  | url word h =>
    show step .none d word = _
    have hbody : bodyParts d.body [.url word h] = bodyParts d.body [] := rfl
    rw [step_url _ _ h, Draft.after, hbody, intercalate_bodyParts_nil]
    rfl
  | stray word h =>
    show step .none d word = _
    rw [step_value _ _ h, d.after_other rfl rfl]
    rfl
  | head flag h =>
    rw [d.after_other rfl rfl]
    simp only [List.mem_cons, List.not_mem_nil, or_false] at h
    obtain rfl | rfl := h <;> rfl
  | compressed =>
    rw [d.after_other rfl rfl]
    show (Pending.none, if d.has "Accept-Encoding" then d else d.set "Accept-Encoding" encodings) = _
    have hname : d.has "Accept-Encoding" = true ↔ "Accept-Encoding" ∈ d.headers.map Prod.fst := by
      simp [Draft.has]
    have hset : (if d.has "Accept-Encoding" then d else d.set "Accept-Encoding" encodings) =
        { d with
          headers :=
            if d.has "Accept-Encoding" then d.headers
            else assign d.headers ("Accept-Encoding", encodings) } := by
      split
      · rfl
      · exact d.set_eq _ _
    rw [hset, assign_unless d.headers hname]
    rfl
  | option kind flag value hflag hvalue =>
    rw [Item.words, run_flag d (isUrl_of_mem_spellings hflag) (mem_spellings_iff.1 hflag) hvalue]
    show (Pending.none, d.takeValue kind value) = _
    congr 1
    cases kind with
    | none => cases hflag
    | header =>
      rw [d.after_other rfl rfl, Draft.takeValue, readField_eq]
      exact d.set_eq _ _
    | userAgent =>
      rw [d.after_other rfl rfl]
      exact d.set_eq _ _
    | data => exact d.addData_eq_after hflag hvalue
    | user =>
      rw [d.after_other rfl rfl]
      exact d.set_eq _ _
    | method =>
      rw [d.after_other rfl rfl]
      rfl
    | cookie =>
      rw [d.after_other rfl rfl]
      exact d.set_eq _ _

/-- **The machine implements the options**: over the words of any items, from any draft, it waits
for nothing in the end, and has made of the draft what the items say. -/
theorem run_items (d : Draft) (items : List Item) :
    run .none d (items.flatMap Item.words) =
      (.none, {
        url := (items.filterMap Item.url?).getLast?.or d.url
        method := items.foldl Item.method d.method
        headers := items.foldl Item.headers d.headers
        body := "&".intercalate
          ((if d.body = "" then [] else [d.body]) ++ items.filterMap Item.data?) }) := by
  show run .none d (items.flatMap Item.words) = (.none, d.after items)
  induction items generalizing d with
  | nil =>
    rw [d.after_nil]
    rfl
  | cons item items ih =>
    rw [List.flatMap_cons, run_append, run_item, ih, d.after_append, List.singleton_append]

end Courier.Command
