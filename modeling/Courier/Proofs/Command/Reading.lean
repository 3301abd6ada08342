import Mathlib.Data.List.Nodup
import Courier.Proofs.Command.Import
import Courier.Proofs.Command.Step

/-! Reading header lines.

Header lines are values, and the machine takes as many of them as there are (`run_headerLines`):
their fields go into the headers one after the other. What the headers hold of one kind of name in
the end depends on the fields of this kind only (`filter_setAll`). So the headers for the content
type are looked at by themselves, and the last one gives the content type
(`contentTypeOf_of_getLast?`). -/

namespace Courier.Command

/-! ### Header lines -/

/-- The line of a header. -/
def lineOf (field : String × String) : String :=
  field.1 ++ ": " ++ field.2

theorem toList_lineOf (field : String × String) :
    (lineOf field).toList = field.1.toList ++ ':' :: ' ' :: field.2.toList := by
  simp [lineOf]

/-- No flag has a colon. -/
theorem isFlag_of_colon {word : String} (h : ':' ∈ word.toList) : isFlag word = false := by
  have hne (flag : String) (hflag : ':' ∉ flag.toList) : word ≠ flag := by
    rintro rfl
    exact hflag h
  have hpending : pendingOf? word = none := by
    unfold pendingOf?
    split <;> first | rfl | exact absurd h (by decide)
  simp [isFlag, hpending, hne "-I" (by decide), hne "--head" (by decide),
    hne "--compressed" (by decide)]

theorem isValue_lineOf {field : String × String} (h : ':' ∉ field.1.toList) :
    IsValue (lineOf field) := by
  refine ⟨?_, isFlag_of_colon ?_, ?_⟩
  · rw [Bool.eq_false_iff]
    intro hurl
    obtain ⟨name, rest, hname, hword⟩ := exists_of_isUrl hurl
    have hcolon : ':' ∉ name := hname.notMem (by decide)
    have hcut : Text.cut? ':' (lineOf field).toList = some (name, '/' :: rest) := by
      rw [hword, Text.cut?_append_cons hcolon]
    rw [toList_lineOf, Text.cut?_append_cons h] at hcut
    cases hcut
  · simp [toList_lineOf]
  · intro hempty
    have hlist := congrArg String.toList hempty
    simp [toList_lineOf] at hlist

theorem unglued_lineOf {field : String × String} (h : ¬"-X".toList <+: field.1.toList) :
    ¬"-X".toList <+: (lineOf field).toList := by
  rintro ⟨rest, hrest⟩
  rw [toList_lineOf] at hrest
  match hname : field.1.toList with
  | [] =>
    rw [hname] at hrest
    cases hrest
  | [c] =>
    rw [hname] at hrest
    cases hrest
  | c :: d :: more =>
    rw [hname] at hrest h
    cases hrest
    exact h ⟨more, rfl⟩

theorem readField_lineOf {field : String × String} (h : ':' ∉ field.1.toList) :
    readField (lineOf field) = field := by
  rw [readField, toList_lineOf, Text.cut?_append_cons h]
  simp

/-- The headers with the fields put into them one after the other. -/
def setAll (fields headers : List (String × String)) : List (String × String) :=
  fields.foldl (fun headers field => setField field.1 field.2 headers) headers

/-- Header lines put their fields into the headers. -/
theorem run_headerLines (d : Draft) {fields : List (String × String)}
    (h : ∀ field ∈ fields, ':' ∉ field.1.toList) (words : List String) :
    run .none d (fields.flatMap (fun field => ["-H", lineOf field]) ++ words) =
      run .none { d with headers := setAll fields d.headers } words := by
  induction fields generalizing d with
  | nil => rfl
  | cons field fields ih =>
    obtain ⟨hfield, hfields⟩ := List.forall_mem_cons.1 h
    have hvalue : IsValue (lineOf field) := isValue_lineOf hfield
    have hset : d.takeValue .header (lineOf field) = d.set field.1 field.2 := by
      rw [Draft.takeValue, readField_lineOf hfield]
    rw [List.flatMap_cons, List.append_assoc]
    show run .none d ("-H" :: lineOf field ::
      (fields.flatMap (fun field => ["-H", lineOf field]) ++ words)) = _
    rw [run_flag d (by decide) rfl hvalue, hset, ih _ hfields]
    rfl

/-! ### Fields -/

theorem setField_of_notMem {name : String} (value : String) {headers : List (String × String)}
    (h : name ∉ headers.map Prod.fst) : setField name value headers = headers ++ [(name, value)] := by
  induction headers with
  | nil => rfl
  | cons header rest ih =>
    simp only [List.map_cons, List.mem_cons, not_or] at h
    rw [setField, if_neg (Ne.symm h.1), ih h.2, List.cons_append]

/-- Fields of new and distinct names follow the headers that are there. -/
theorem setAll_of_nodup {fields headers : List (String × String)}
    (h : ((headers ++ fields).map Prod.fst).Nodup) : setAll fields headers = headers ++ fields := by
  induction fields generalizing headers with
  | nil => simp [setAll]
  | cons field fields ih =>
    have hnew : field.1 ∉ headers.map Prod.fst := by
      rw [List.map_append, List.map_cons, List.nodup_append] at h
      exact fun hmem => h.2.2 _ hmem _ List.mem_cons_self rfl
    have hnext : setAll fields (headers ++ [field]) = headers ++ [field] ++ fields :=
      ih (by simpa using h)
    have hset : setAll (field :: fields) headers = setAll fields (headers ++ [field]) :=
      congrArg (setAll fields) (setField_of_notMem field.2 hnew)
    rw [hset, hnext, List.append_assoc, List.singleton_append]

theorem filter_setField (p : String → Bool) (name value : String)
    (headers : List (String × String)) :
    (setField name value headers).filter (fun header => p header.1) =
      if p name then setField name value (headers.filter fun header => p header.1)
      else headers.filter fun header => p header.1 := by
  induction headers with
  | nil =>
    rw [setField, List.filter_cons]
    rfl
  | cons header rest ih =>
    rw [setField]
    by_cases hname : header.1 = name
    · by_cases hp : p name <;> simp [hname, hp, setField]
    · rw [if_neg hname, List.filter_cons, List.filter_cons, ih]
      by_cases hp : p name <;> by_cases hheader : p header.1 <;> simp [hp, hheader, hname, setField]

/-- What the headers hold of one kind of name comes from the fields of this kind. -/
theorem filter_setAll (p : String → Bool) (fields headers : List (String × String)) :
    (setAll fields headers).filter (fun header => p header.1) =
      setAll (fields.filter fun field => p field.1) (headers.filter fun header => p header.1) := by
  induction fields generalizing headers with
  | nil => rfl
  | cons field fields ih =>
    have hset : setAll (field :: fields) headers =
        setAll fields (setField field.1 field.2 headers) := rfl
    rw [hset, ih, filter_setField, List.filter_cons]
    split <;> rfl

/-! ### The content type -/

/-- The headers for the content type. -/
def typeFields (headers : List (String × String)) : List (String × String) :=
  headers.filter fun header => Http.isContentType header.1

def otherFields (headers : List (String × String)) : List (String × String) :=
  headers.filter fun header => !Http.isContentType header.1

theorem typeFields_setAll (fields headers : List (String × String)) :
    typeFields (setAll fields headers) = setAll (typeFields fields) (typeFields headers) :=
  filter_setAll Http.isContentType fields headers

theorem otherFields_setAll (fields headers : List (String × String)) :
    otherFields (setAll fields headers) = setAll (otherFields fields) (otherFields headers) :=
  filter_setAll (fun name => !Http.isContentType name) fields headers

/-- Nothing but the headers for it and the body counts for the content type. -/
theorem contentTypeOf_eq {d : Draft} {given : String}
    (h : ((typeFields d.headers).getLast?.map (·.2)).getD "" = given) :
    contentTypeOf d = String.ofList
      ((if given = "" ∧ Http.looksLikeJson d.body.toList then Http.jsonType
        else given).toList.takeWhile (· ≠ ';')) := by
  rw [← h]
  rfl

/-- The content type is the last one that is given, up to its parameters. -/
theorem contentTypeOf_of_getLast? {d : Draft} {field : String × String}
    (h : (typeFields d.headers).getLast? = some field) (hvalue : field.2 ≠ "") :
    contentTypeOf d = String.ofList (field.2.toList.takeWhile (· ≠ ';')) := by
  have hgiven : ((typeFields d.headers).getLast?.map (·.2)).getD "" = field.2 := by
    rw [h]
    rfl
  rw [contentTypeOf_eq hgiven, if_neg fun hguessed => hvalue hguessed.1]

/-- Without a body nothing is guessed. -/
theorem contentTypeOf_of_typeFields_eq_nil {d : Draft} (h : typeFields d.headers = [])
    (hbody : d.body = "") : contentTypeOf d = "" := by
  have hgiven : ((typeFields d.headers).getLast?.map (·.2)).getD "" = "" := by
    rw [h]
    rfl
  rw [contentTypeOf_eq hgiven, hbody]
  rfl

end Courier.Command
