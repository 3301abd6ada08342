import Mathlib.Data.List.TakeWhile
import Courier.Json.Path
import Courier.Proofs.Json.Brackets

/-! Paths as they are written.

Each segment of a path may be written as it is, behind a dot, or in brackets, with or without
quotes. What may stand in a segment depends on how it is written (`IsPlain`, `IsBracketed`), and
with that every mixture is read back as the segments it was written from (`segments_path`). So a
path finds what stands at a location of a document, and nothing where the document has no such
location, however its steps are written (`get?_path`). -/

namespace Courier.Json

namespace Path

/-! ### Segments as they are written -/

/-- What may stand before the brackets of a piece between dots. -/
structure IsPlain (front : String) : Prop where
  dot : '.' ∉ front.toList
  bracket : '[' ∉ front.toList
  first : ∀ c, front.toList.head? = some c → Text.isBlank c = false
  last : ∀ c, front.toList.getLast? = some c → Text.isBlank c = false

/-- What may stand in brackets, with or without quotes. -/
structure IsBracketed (name : String) : Prop where
  dot : '.' ∉ name.toList
  bracket : ']' ∉ name.toList
  first : ∀ c, name.toList.head? = some c → c ∉ ['\'', '"']
  last : ∀ c, name.toList.getLast? = some c → c ∉ ['\'', '"']

/-- A segment in brackets. -/
structure Bracket where
  name : String
  /-- The quote that stands at both ends, if it is quoted. -/
  quote : Option Char
  isBracketed : IsBracketed name
  isQuote : ∀ c ∈ quote, c ∈ ['\'', '"']

namespace Bracket

/-- What stands between the brackets. -/
def inner (b : Bracket) : List Char :=
  b.quote.toList ++ b.name.toList ++ b.quote.toList

def chars (b : Bracket) : List Char :=
  '[' :: (b.inner ++ [']'])

end Bracket

/-- A segment as it is written. -/
inductive Written where
  | dotted (name : String) (nonempty : name ≠ "") (h : IsPlain name)
  | bracket (b : Bracket)

namespace Written

/-- The segment that is written. -/
def name : Written → String
  | dotted name _ _ => name
  | bracket b => b.name

def chars : Written → List Char
  | dotted name _ _ => name.toList
  | bracket b => b.chars

/-- The segment behind another one. -/
def attached : Written → List Char
  | dotted name _ _ => '.' :: name.toList
  | bracket b => b.chars

end Written

/-- A segment and those behind it, in one path. -/
def path (first : Written) (rest : List Written) : String :=
  String.ofList (first.chars ++ rest.flatMap Written.attached)

/-! ### Brackets -/

theorem dropWhile_append_of_head {p : Char → Bool} {marks cs : List Char}
    (hmarks : ∀ c ∈ marks, p c = true) (hcs : ∀ c, cs.head? = some c → p c = false) :
    (marks ++ cs).dropWhile p = cs := by
  rw [List.dropWhile_append_of_pos hmarks]
  cases cs with
  | nil => rfl
  | cons c cs => exact List.dropWhile_cons_of_neg (by simp [hcs c rfl])

namespace Bracket
variable (b : Bracket)

theorem notMem_inner {c : Char} (hname : c ∉ b.name.toList) (hquote : c ∉ ['\'', '"']) :
    c ∉ b.inner := by
  have hmark : c ∉ b.quote.toList := fun hc => hquote (b.isQuote c (Option.mem_toList.1 hc))
  simp only [inner, List.mem_append, not_or]
  exact ⟨⟨hmark, hname⟩, hmark⟩

theorem unquote_inner : unquote b.inner = b.name.toList := by
  let isQuote (c : Char) : Bool := c = '\'' || c = '"'
  have hmarks : ∀ c ∈ b.quote.toList, isQuote c = true := fun c hc => by
    simpa [isQuote] using b.isQuote c (Option.mem_toList.1 hc)
  have hplain {c : Char} (hc : c ∉ ['\'', '"']) : isQuote c = false := by simpa [isQuote] using hc
  have hfirst := fun c hc => hplain (b.isBracketed.first c hc)
  have hlast := fun c hc => hplain (b.isBracketed.last c hc)
  show ((b.inner.dropWhile isQuote).reverse.dropWhile isQuote).reverse = b.name.toList
  rw [inner, List.append_assoc]
  match hname : b.name.toList with
  | [] =>
    -- Only quotes stand in the brackets then, and the ones in front take all of them along.
    have hall : (b.quote.toList ++ ([] ++ b.quote.toList)).dropWhile isQuote = [] :=
      List.dropWhile_eq_nil_iff.2 (by simpa using hmarks)
    rw [hall]
    rfl
  | c :: name =>
    rw [hname] at hfirst hlast
    rw [dropWhile_append_of_head hmarks (by simpa using hfirst), List.reverse_append,
      dropWhile_append_of_head (by simpa using hmarks) (by rwa [List.head?_reverse]),
      List.reverse_reverse]

theorem dot_notMem_chars : '.' ∉ b.chars := by
  have hinner : '.' ∉ b.inner := b.notMem_inner b.isBracketed.dot (by decide)
  simp [chars, hinner]

end Bracket

theorem bracketed_of_cut? {inner front back : List Char}
    (h : Text.cut? ']' inner = some (front, back)) :
    bracketed ('[' :: inner) = unquote front :: bracketed back := by
  rw [bracketed]
  split
  · next hnone => cases hnone.symm.trans h
  · next hsome =>
    cases hsome.symm.trans h
    rfl

/-- Segments in brackets are read back, whatever their quotes are. -/
theorem bracketed_chars (bs : List Bracket) :
    bracketed (bs.flatMap Bracket.chars) = bs.map fun b => b.name.toList := by
  induction bs with
  | nil => exact bracketed.eq_2 _ (by simp)
  | cons b bs ih =>
    have hcut : Text.cut? ']' (b.inner ++ ']' :: bs.flatMap Bracket.chars) =
        some (b.inner, bs.flatMap Bracket.chars) :=
      Text.cut?_append_cons (b.notMem_inner b.isBracketed.bracket (by decide)) _
    rw [List.flatMap_cons, Bracket.chars, List.cons_append, List.append_assoc,
      List.singleton_append, bracketed_of_cut? hcut, b.unquote_inner, ih, List.map_cons]

theorem head?_chars {bs : List Bracket} {c : Char}
    (h : (bs.flatMap Bracket.chars).head? = some c) : c = '[' := by
  cases bs with
  | nil => cases h
  | cons b bs => exact (Option.some.inj h).symm

theorem getLast?_chars {bs : List Bracket} {c : Char}
    (h : (bs.flatMap Bracket.chars).getLast? = some c) : c = ']' := by
  rcases List.eq_nil_or_concat bs with rfl | ⟨front, b, rfl⟩
  · cases h
  · rw [List.concat_eq_append, List.flatMap_append, List.flatMap_singleton, Bracket.chars,
      ← List.cons_append, ← List.append_assoc, List.getLast?_concat] at h
    exact (Option.some.inj h).symm

/-! ### Pieces between dots -/

/-- A piece has at most one segment without brackets, and any number of others behind it. -/
theorem ofPiece_append {front : String} (h : IsPlain front) (bs : List Bracket) :
    ofPiece (front.toList ++ bs.flatMap Bracket.chars) =
      (if front.toList.isEmpty then [] else [front.toList]) ++ bs.map fun b => b.name.toList := by
  have htrim : Text.trim (front.toList ++ bs.flatMap Bracket.chars) =
      front.toList ++ bs.flatMap Bracket.chars := by
    refine Text.trim_eq_self (fun c hc => ?_) fun c hc => ?_
    · rw [List.head?_append] at hc
      rcases Option.or_eq_some_iff.1 hc with hc | ⟨-, hc⟩
      · exact h.first c hc
      · rw [head?_chars hc]
        decide
    · rw [List.getLast?_append] at hc
      rcases Option.or_eq_some_iff.1 hc with hc | ⟨-, hc⟩
      · rw [getLast?_chars hc]
        decide
      · exact h.last c hc
  have hdrop : (front.toList ++ bs.flatMap Bracket.chars).dropWhile (· ≠ '[') =
      bs.flatMap Bracket.chars :=
    dropWhile_append_of_head (fun c hc => decide_eq_true fun he => h.bracket (he ▸ hc))
      fun c hc => by rw [head?_chars hc]; decide
  have htake : (front.toList ++ bs.flatMap Bracket.chars).takeWhile (· ≠ '[') = front.toList := by
    have hwhole : (front.toList ++ bs.flatMap Bracket.chars).takeWhile (· ≠ '[') ++
        (front.toList ++ bs.flatMap Bracket.chars).dropWhile (· ≠ '[') =
          front.toList ++ bs.flatMap Bracket.chars := List.takeWhile_append_dropWhile
    rw [hdrop] at hwhole
    exact List.append_cancel_right hwhole
  rw [ofPiece, htrim, htake, hdrop, bracketed_chars]

/-- The segments of a text. -/
def segmentChars (cs : List Char) : List (List Char) :=
  (Text.splitOn '.' cs).flatMap ofPiece

theorem segments_ofList (cs : List Char) :
    segments (String.ofList cs) = (segmentChars cs).map String.ofList := by
  rw [segments, String.toList_ofList, segmentChars]

/-- What stands before a dot and what stands behind it have their segments each. -/
theorem segmentChars_append_dot (cs more : List Char) :
    segmentChars (cs ++ '.' :: more) = segmentChars cs ++ segmentChars more := by
  simp only [segmentChars, Text.splitOn_eq, List.splitOn_append_cons_self, List.flatMap_append]

theorem segmentChars_of_notMem {cs : List Char} (h : '.' ∉ cs) : segmentChars cs = ofPiece cs := by
  rw [segmentChars, Text.splitOn_eq, List.splitOn_eq_singleton h, List.flatMap_singleton]

/-- Behind a piece that has some of its brackets already, the others follow, and other pieces. -/
theorem segmentChars_written {front : String} (h : IsPlain front) (bs : List Bracket)
    (rest : List Written) :
    segmentChars (front.toList ++ bs.flatMap Bracket.chars ++ rest.flatMap Written.attached) =
      (if front.toList.isEmpty then [] else [front.toList]) ++ (bs.map fun b => b.name.toList) ++
        rest.map fun w => w.name.toList := by
  have hdot {front : String} (h : IsPlain front) (bs : List Bracket) :
      '.' ∉ front.toList ++ bs.flatMap Bracket.chars := by
    simp only [List.mem_append, List.mem_flatMap, not_or, not_exists, not_and]
    exact ⟨h.dot, fun b _ => b.dot_notMem_chars⟩
  induction rest generalizing front bs with
  | nil =>
    rw [List.flatMap_nil, List.append_nil, segmentChars_of_notMem (hdot h bs), ofPiece_append h,
      List.map_nil, List.append_nil]
  | cons w rest ih =>
    cases w with
    | dotted name nonempty hname =>
      have hnext := ih hname []
      rw [List.flatMap_nil, List.append_nil] at hnext
      have hsome : name.toList.isEmpty = false := by
        simpa using nonempty
      rw [List.flatMap_cons, Written.attached, List.cons_append, segmentChars_append_dot,
        segmentChars_of_notMem (hdot h bs), ofPiece_append h, hnext, hsome]
      rfl
    | bracket b =>
      have hnext := ih h (bs ++ [b])
      simp only [List.flatMap_append, List.flatMap_singleton, List.map_append, List.map_cons,
        List.map_nil] at hnext
      rw [List.flatMap_cons, Written.attached, ← List.append_assoc, List.append_assoc front.toList,
        hnext, List.map_cons]
      simp only [List.append_assoc, List.singleton_append]
      rfl

/-- A path is read back as the segments that were written. -/
theorem segments_path (first : Written) (rest : List Written) :
    segments (path first rest) = (first :: rest).map Written.name := by
  have hnames : segmentChars (first.chars ++ rest.flatMap Written.attached) =
      (first :: rest).map fun w => w.name.toList := by
    cases first with
    | dotted name nonempty h =>
      have hwritten := segmentChars_written h [] rest
      have hsome : name.toList.isEmpty = false := by simpa using nonempty
      rw [List.flatMap_nil, List.append_nil, hsome] at hwritten
      exact hwritten
    | bracket b =>
      have hempty : IsPlain "" := ⟨by simp, by simp, by simp, by simp⟩
      have hwritten := segmentChars_written hempty [b] rest
      rw [List.flatMap_singleton] at hwritten
      exact hwritten
  rw [path, segments_ofList, hnames, List.map_map]
  simp [Function.comp_def]

/-- Blanks and quotes inside a segment are part of it, and a segment in brackets may be empty. -/
example : segments "a['b c'][\"\"].d'e" = ["a", "b c", "", "d'e"] := by
  decide +kernel

/-! ### Places in arrays -/

/-- Digits, perhaps behind a plus sign, mean a number. -/
def Means (segment : String) (n : Nat) : Prop :=
  ∃ digits : List Char, digits ≠ [] ∧ (∀ c ∈ digits, c.isDigit = true) ∧
    (segment.toList = digits ∨ segment.toList = '+' :: digits) ∧ Nat.ofDigitChars 10 digits 0 = n

/-- A number is read back, if it is not too large. -/
theorem index?_of_means {segment : String} {n : Nat} (h : Means segment n) :
    index? segment = if n < UInt64.size then some n else none := by
  obtain ⟨digits, hne, hdigits, hsegment, hvalue⟩ := h
  have hread : digits.foldl (fun n c => n * 10 + (c.toNat - 0x30)) 0 = n := by
    simp only [Nat.mul_comm _ 10]
    exact hvalue
  have hsome : (digits.isEmpty || !digits.all Char.isDigit) = false := by
    simpa [hne] using hdigits
  unfold index?
  dsimp only
  split
  · next behind hplus =>
    have hbehind : behind = digits := by
      rcases hsegment with hsegment | hsegment
      · rw [← hsegment, hplus] at hdigits
        exact absurd (hdigits '+' List.mem_cons_self) (by decide)
      · exact (List.cons.inj (hplus.symm.trans hsegment)).2
    rw [hbehind, hsome, hread]
    rfl
  · next hplus =>
    rw [hsegment.resolve_right (hplus digits), hsome, hread]
    rfl

theorem index?_eq_none {segment : String} (h : ∀ n, ¬Means segment n) : index? segment = none := by
  have hnone {digits : List Char}
      (hsegment : segment.toList = digits ∨ segment.toList = '+' :: digits) :
      (digits.isEmpty || !digits.all Char.isDigit) = true := by
    by_cases hempty : digits = []
    · rw [hempty]
      rfl
    · have hall : digits.all Char.isDigit = false := by
        rw [Bool.eq_false_iff]
        exact fun hall => h _ ⟨digits, hempty, List.all_eq_true.1 hall, hsegment, rfl⟩
      rw [hall, Bool.not_false, Bool.or_true]
  unfold index?
  dsimp only
  split
  · next digits hsegment => rw [if_pos (hnone (.inr hsegment))]
  · rw [if_pos (hnone (.inl rfl))]

theorem means_toString (n : Nat) : Means (toString n) n := by
  have hchars : (toString n).toList = Nat.toDigits 10 n := by simp
  exact ⟨Nat.toDigits 10 n, Nat.toDigits_ne_nil,
    fun c hc => Nat.isDigit_of_mem_toDigits (by decide) (by decide) hc, .inl hchars,
    Nat.ofDigitChars_toDigits (by decide) (by decide)⟩

end Path

/-! ### Locations -/

/-- A step from a value to one inside it. -/
inductive Step where
  | key (name : String)
  | index (place : Nat)

/-- The segment that means the step: a place is written in decimal. -/
def Step.segment : Step → String
  | key name => name
  | index place => toString place

/-- The steps lead from a value to another one. -/
inductive Leads : List Step → Json → Json → Prop where
  | here (j : Json) : Leads [] j j
  /-- The first entry of a name is the member. -/
  | member {members before after : List (String × Json)} {name : String} {value found : Json}
      {steps : List Step} (h : members = before ++ (name, value) :: after)
      (hfirst : ∀ entry ∈ before, entry.1 ≠ name) (hrest : Leads steps value found) :
      Leads (.key name :: steps) (.object members) found
  /-- Sixty-four bits count the items of an array. -/
  | item {items : List Json} {place : Nat} {value found : Json} {steps : List Step}
      (hsize : items.length ≤ UInt64.size) (h : items[place]? = some value)
      (hrest : Leads steps value found) : Leads (.index place :: steps) (.array items) found

/-- Some step leads nowhere. -/
inductive Missing : List Step → Json → Prop where
  /-- An object has no entry of the name, or none that has the number for its name. -/
  | member {members : List (String × Json)} {step : Step} {steps : List Step}
      (h : ∀ entry ∈ members, entry.1 ≠ step.segment) : Missing (step :: steps) (.object members)
  | item {items : List Json} {place : Nat} {steps : List Step} (h : items.length ≤ place) :
      Missing (.index place :: steps) (.array items)
  /-- An array has no members, and a name is a place only if it means a number. -/
  | name {items : List Json} {name : String} {steps : List Step}
      (h : ∀ place, Path.Means name place → items.length ≤ place) :
      Missing (.key name :: steps) (.array items)
  /-- A value that is neither an object nor an array has nothing inside. -/
  | scalar {j : Json} {step : Step} {steps : List Step} (h : j.container? = none) :
      Missing (step :: steps) j
  | inside {j value : Json} {step : Step} {steps : List Step} (h : Leads [step] j value)
      (hrest : Missing steps value) : Missing (step :: steps) j

/-- The member of a name is the first entry of that name. -/
theorem member?_eq_some_iff {members : List (String × Json)} {name : String} {value : Json} :
    (Json.object members).member? name = some value ↔
      ∃ before after, members = before ++ (name, value) :: after ∧
        ∀ entry ∈ before, entry.1 ≠ name := by
  rw [member?, Option.map_eq_some_iff]
  constructor
  · intro h
    obtain ⟨⟨other, v⟩, hfound, hvalue⟩ := h
    obtain ⟨hname, before, after, hsplit, hfirst⟩ := List.find?_eq_some_iff_append.1 hfound
    cases of_decide_eq_true hname
    cases hvalue
    exact ⟨before, after, hsplit, by simpa using hfirst⟩
  · intro h
    obtain ⟨before, after, hsplit, hfirst⟩ := h
    have hfound : members.find? (·.1 = name) = some (name, value) :=
      List.find?_eq_some_iff_append.2
        ⟨decide_eq_true rfl, before, after, hsplit, by simpa using hfirst⟩
    exact ⟨(name, value), hfound, rfl⟩

theorem member?_eq_none_iff {members : List (String × Json)} {name : String} :
    (Json.object members).member? name = none ↔ ∀ entry ∈ members, entry.1 ≠ name := by
  rw [member?, Option.map_eq_none_iff, List.find?_eq_none]
  simp

/-- A number in decimal leads to its place. -/
theorem step?_index {items : List Json} (hsize : items.length ≤ UInt64.size) (place : Nat) :
    Path.step? (toString place) (.array items) = items[place]? := by
  rw [Path.step?, Path.index?_of_means (Path.means_toString place)]
  split
  · rfl
  · next hlarge => exact (List.getElem?_eq_none (by omega)).symm

theorem step?_of_le {items : List Json} {segment : String} {place : Nat}
    (hmeans : Path.Means segment place) (h : items.length ≤ place) :
    Path.step? segment (.array items) = none := by
  rw [Path.step?, Path.index?_of_means hmeans]
  split
  · exact List.getElem?_eq_none h
  · rfl

/-- A segment leads nowhere in an array if it means no place of it. -/
theorem step?_array_eq_none {items : List Json} {segment : String}
    (h : ∀ place, Path.Means segment place → items.length ≤ place) :
    Path.step? segment (.array items) = none := by
  by_cases hmeans : ∃ place, Path.Means segment place
  · obtain ⟨place, hplace⟩ := hmeans
    exact step?_of_le hplace (h place hplace)
  · rw [Path.step?, Path.index?_eq_none (not_exists.1 hmeans), Option.bind_none]

theorem follow?_of_leads {steps : List Step} {j found : Json} (h : Leads steps j found) :
    Path.follow? (steps.map Step.segment) j = some found := by
  induction h with
  | here j => rfl
  | member h hfirst _ ih =>
    rw [List.map_cons, Path.follow?, Step.segment, Path.step?,
      member?_eq_some_iff.2 ⟨_, _, h, hfirst⟩]
    exact ih
  | item hsize h _ ih =>
    rw [List.map_cons, Path.follow?, Step.segment, step?_index hsize, h]
    exact ih

theorem step?_eq_none {j : Json} (h : j.container? = none) (segment : String) :
    Path.step? segment j = none := by
  cases j with
  | array | object => cases h
  | _ => rfl

/-- No path leads into a value without others inside. -/
theorem get?_eq_none {j : Json} (h : j.container? = none) (path : String) : j.get? path = none := by
  unfold get?
  split
  · rfl
  · next hsome =>
    obtain ⟨segment, rest, hsegments⟩ := List.exists_cons_of_ne_nil hsome
    rw [hsegments, Path.follow?, step?_eq_none h, Option.bind_none]

theorem follow?_of_missing {steps : List Step} {j : Json} (h : Missing steps j) :
    Path.follow? (steps.map Step.segment) j = none := by
  induction h with
  | member h =>
    rw [List.map_cons, Path.follow?, Path.step?, member?_eq_none_iff.2 h, Option.bind_none]
  | item h =>
    rw [List.map_cons, Path.follow?, Step.segment, step?_of_le (Path.means_toString _) h,
      Option.bind_none]
  | name h => rw [List.map_cons, Path.follow?, Step.segment, step?_array_eq_none h, Option.bind_none]
  | scalar h => rw [List.map_cons, Path.follow?, step?_eq_none h, Option.bind_none]
  | inside h _ ih =>
    obtain ⟨found, hstep, hfound⟩ := Option.bind_eq_some_iff.1 (follow?_of_leads h)
    cases hfound
    rw [List.map_cons, Path.follow?, hstep]
    exact ih

/-- **Every way to write a path leads to the same place.** A path is read back as its segments. If
these are the steps to a location of a document, the path finds what stands there; if some step
leads nowhere, it finds nothing. How the segments are written does not matter. -/
theorem get?_path (first : Path.Written) (rest : List Path.Written) :
    Path.segments (Path.path first rest) = (first :: rest).map Path.Written.name ∧
      (∀ steps : List Step, steps.map Step.segment = (first :: rest).map Path.Written.name →
        ∀ j : Json, (∀ found, Leads steps j found → j.get? (Path.path first rest) = some found) ∧
          (Missing steps j → j.get? (Path.path first rest) = none)) ∧
      ∀ other others, (other :: others).map Path.Written.name =
          (first :: rest).map Path.Written.name →
        ∀ j : Json, j.get? (Path.path other others) = j.get? (Path.path first rest) := by
  have hget (first : Path.Written) (rest : List Path.Written) (j : Json) :
      j.get? (Path.path first rest) = Path.follow? ((first :: rest).map Path.Written.name) j := by
    rw [get?, Path.segments_path]
    rfl
  refine ⟨Path.segments_path first rest, fun steps hsteps j => ⟨fun found h => ?_, fun h => ?_⟩,
    fun other others hnames j => ?_⟩
  · rw [hget, ← hsteps, follow?_of_leads h]
  · rw [hget, ← hsteps, follow?_of_missing h]
  · rw [hget, hget, hnames]

end Courier.Json
