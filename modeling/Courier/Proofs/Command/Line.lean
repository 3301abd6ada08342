import Mathlib.Data.List.Infix
import Courier.Command.Layout

/-! The steps that bring a command into one line.

Every step looks for a mark and for something behind it, and passes over a text in which one of
the two is missing. So a line that has neither line feeds nor carets, starts with the command and
does not end with a blank, stays as it is (`normalizeChars_eq_self`); and whatever the text, no line
feed is left in the end (`notMem_normalizeChars`). -/

namespace Courier.Command
open Text (isBlank)

/-! ### What stands behind a mark -/

theorem afterFeeds?_eq_none {cs : List Char} (h : '\n' ∉ cs) : afterFeeds? cs = none := by
  induction cs with
  | nil => rfl
  | cons c cs ih =>
    simp only [List.mem_cons, not_or] at h
    simp [afterFeeds?, ih h.2, Ne.symm h.1]

/-- A character that is not blank ends the search for a line feed. -/
theorem afterFeeds?_append_cons {u : List Char} (hu : '\n' ∉ u) {c : Char}
    (hc : isBlank c = false) (rest : List Char) : afterFeeds? (u ++ c :: rest) = none := by
  induction u with
  | nil => simp [afterFeeds?, hc]
  | cons d u ih =>
    simp only [List.mem_cons, not_or] at hu
    simp [afterFeeds?, ih hu.2, Ne.symm hu.1]

/-! ### Replacing marks -/

section
variable {mark out : Char} {skip? : List Char → Option (List Char)}
  {shorter : ∀ {cs rest}, skip? cs = some rest → rest.length < cs.length}

theorem replaceMarks_nil : replaceMarks mark out skip? shorter [] = [] := by
  rw [replaceMarks]

theorem replaceMarks_cons_of_ne {c : Char} (hc : c ≠ mark) (cs : List Char) :
    replaceMarks mark out skip? shorter (c :: cs) = c :: replaceMarks mark out skip? shorter cs := by
  rw [replaceMarks, if_neg hc]

theorem replaceMarks_of_some {cs rest : List Char} (h : skip? cs = some rest) :
    replaceMarks mark out skip? shorter (mark :: cs) =
      out :: replaceMarks mark out skip? shorter rest := by
  rw [replaceMarks, if_pos rfl]
  split
  · next found => rw [h] at found; cases found; rfl
  · next missed => rw [h] at missed; cases missed

theorem replaceMarks_of_none {cs : List Char} (h : skip? cs = none) :
    replaceMarks mark out skip? shorter (mark :: cs) =
      mark :: replaceMarks mark out skip? shorter cs := by
  rw [replaceMarks, if_pos rfl]
  split
  · next found => rw [h] at found; cases found
  · rfl

/-- Text without the mark is passed over. -/
theorem replaceMarks_append_of_notMem {u : List Char} (hu : mark ∉ u) (rest : List Char) :
    replaceMarks mark out skip? shorter (u ++ rest) =
      u ++ replaceMarks mark out skip? shorter rest := by
  induction u with
  | nil => rfl
  | cons c u ih =>
    simp only [List.mem_cons, not_or] at hu
    rw [List.cons_append, replaceMarks_cons_of_ne (Ne.symm hu.1), ih hu.2, List.cons_append]

end

/-- Text without line feeds is passed over up to a character that is not blank: the blanks behind
a mark in it end there at the latest. -/
theorem joinLines_append_cons {mark c : Char} {u : List Char} (hu : '\n' ∉ u)
    (hblank : isBlank c = false) (hc : c ≠ mark) (rest : List Char) :
    joinLines mark (u ++ c :: rest) = u ++ c :: joinLines mark rest := by
  induction u with
  | nil => exact replaceMarks_cons_of_ne hc rest
  | cons d u ih =>
    simp only [List.mem_cons, not_or] at hu
    rw [List.cons_append, List.cons_append, ← ih hu.2]
    by_cases hd : d = mark
    · subst hd
      exact replaceMarks_of_none (afterFeeds?_append_cons hu.2 hblank rest)
    · exact replaceMarks_cons_of_ne hd _

theorem joinLines_eq_self {cs : List Char} (h : '\n' ∉ cs) (mark : Char) :
    joinLines mark cs = cs := by
  induction cs with
  | nil => exact replaceMarks_nil
  | cons c cs ih =>
    simp only [List.mem_cons, not_or] at h
    have htail : joinLines mark cs = cs := ih h.2
    by_cases hc : c = mark
    · subst hc
      exact (replaceMarks_of_none (afterFeeds?_eq_none h.2)).trans (congrArg _ htail)
    · exact (replaceMarks_cons_of_ne hc cs).trans (congrArg _ htail)

theorem bareQuotes_eq_self {cs : List Char} (h : '^' ∉ cs) : bareQuotes cs = cs := by
  have hnil : bareQuotes [] = [] := replaceMarks_nil
  have hpass : bareQuotes (cs ++ []) = cs ++ bareQuotes [] := replaceMarks_append_of_notMem h []
  rwa [hnil, List.append_nil] at hpass

theorem dropLastCaret_eq_self {cs : List Char} (h : '^' ∉ cs) : dropLastCaret cs = cs := by
  unfold dropLastCaret
  split
  · next rest hrest =>
    have hmem : '^' ∈ Text.trimStart cs.reverse := by simp [hrest]
    exact absurd (List.mem_reverse.1 ((List.dropWhile_sublist _).mem hmem)) h
  · rfl

/-! ### Line feeds -/

theorem feedsToSpaces_cons {c : Char} {cs : List Char} (hc : c ≠ '\n')
    (hcs : cs.head? ≠ some '\n') : feedsToSpaces (c :: cs) = c :: feedsToSpaces cs := by
  rw [feedsToSpaces, if_neg hc]
  rintro rest - rfl
  exact hcs rfl

/-- Text without line feeds is passed over up to a character that is none either. -/
theorem feedsToSpaces_append {u rest : List Char} (hu : '\n' ∉ u) (hrest : rest.head? ≠ some '\n') :
    feedsToSpaces (u ++ rest) = u ++ feedsToSpaces rest := by
  induction u with
  | nil => rfl
  | cons c u ih =>
    simp only [List.mem_cons, not_or] at hu
    rw [List.cons_append, feedsToSpaces_cons (Ne.symm hu.1), ih hu.2, List.cons_append]
    cases u with
    | nil => exact hrest
    | cons d u => simpa using Ne.symm (List.ne_of_not_mem_cons hu.2)

theorem feedsToSpaces_eq_self {cs : List Char} (h : '\n' ∉ cs) : feedsToSpaces cs = cs := by
  have hpass : feedsToSpaces (cs ++ []) = cs ++ feedsToSpaces [] :=
    feedsToSpaces_append h (by simp)
  simpa [feedsToSpaces] using hpass

theorem notMem_feedsToSpaces (cs : List Char) : '\n' ∉ feedsToSpaces cs := by
  fun_induction feedsToSpaces cs with
  | case1 => simp
  | case2 cs ih => simpa using ih
  | case3 c cs _ ih =>
    split
    · simpa using ih
    · next hc => simpa [Ne.symm hc] using ih

/-! ### The name of the command -/

/-- Reading a word in any letter case cuts a text into the word and what follows it. -/
theorem afterWord?_eq_some_iff {word : String} {cs rest : List Char} :
    afterWord? word cs = some rest ↔
      ∃ front, cs = front ++ rest ∧ front.map Char.toLower = word.toList := by
  unfold afterWord?
  constructor
  · intro h
    split at h
    · next hword =>
      cases h
      obtain ⟨back, hback⟩ := List.isPrefixOf_iff_prefix.1 hword
      refine ⟨cs.take word.length, (List.take_append_drop ..).symm, ?_⟩
      rw [List.map_take, ← hback, ← String.length_toList, List.take_left]
    · cases h
  · rintro ⟨front, rfl, hfront⟩
    have hlength : front.length = word.length := by
      rw [← String.length_toList, ← hfront, List.length_map]
    rw [List.map_append, hfront, if_pos (by simp), ← hlength, List.drop_left]

theorem notMem_plainName {cs : List Char} (h : '\n' ∉ cs) : '\n' ∉ plainName cs := by
  have hrest {word : String} {rest : List Char} (hword : afterWord? word cs = some rest) :
      '\n' ∉ rest := by
    obtain ⟨front, rfl, -⟩ := afterWord?_eq_some_iff.1 hword
    exact fun hmem => h (List.mem_append_right front hmem)
  unfold plainName
  split
  · next rest hword =>
    have hmem : '\n' ∉ rest := by
      rcases Option.or_eq_some_iff.1 hword with hword | ⟨-, hword⟩ <;> exact hrest hword
    simpa using hmem
  · exact h

/-- The name of the command, in any letter case. -/
def IsName (name : List Char) : Prop :=
  name.map Char.toLower = "curl".toList ∨ name.map Char.toLower = "curl.exe".toList

/-- The name, with a space behind it, is written plainly. -/
theorem plainName_append {name : List Char} (hname : IsName name) (rest : List Char) :
    plainName (name ++ ' ' :: rest) = "curl ".toList ++ rest := by
  have hread (word : String) (h : (name ++ [' ']).map Char.toLower = word.toList) :
      afterWord? word (name ++ ' ' :: rest) = some rest :=
    afterWord?_eq_some_iff.2 ⟨name ++ [' '], by simp, h⟩
  rcases hname with hname | hname
  · have hmiss : afterWord? "curl.exe " (name ++ ' ' :: rest) = none := by
      simp [afterWord?, hname, List.isPrefixOf]
    rw [plainName, hmiss, Option.none_or, hread "curl " (by simp [hname])]
  · rw [plainName, hread "curl.exe " (by simp [hname]), Option.some_or]

/-! ### Lines as they are -/

theorem fromCommand?_eq_self {cs : List Char} (h : startsCommand startsBlank cs = true) :
    fromCommand? cs = some cs := by
  cases cs with
  | nil => cases h
  | cons c cs => rw [fromCommand?, if_pos h]

theorem startsCommand_curl (wanted : List Char → Bool) (rest : List Char)
    (h : wanted rest = true) : startsCommand wanted ("curl".toList ++ rest) = true := by
  have hread : afterWord? "curl" ("curl".toList ++ rest) = some rest :=
    afterWord?_eq_some_iff.2 ⟨"curl".toList, rfl, by decide⟩
  rw [startsCommand, hread]
  simp [h]

/-- A command in one line stays as it is, if no caret stands in it. -/
theorem normalizeChars_eq_self {rest : List Char} (hfeed : '\n' ∉ rest) (hcaret : '^' ∉ rest)
    (hlast : ∀ c, rest.getLast? = some c → isBlank c = false) (hne : rest ≠ []) :
    normalizeChars ("curl ".toList ++ rest) = "curl ".toList ++ rest := by
  have htrim : Text.trim ("curl ".toList ++ rest) = "curl ".toList ++ rest := by
    apply Text.trim_eq_self
    · rintro c ⟨⟩
      decide
    · rw [List.getLast?_append_of_ne_nil _ hne]
      exact hlast
  have hfrom : fromCommand? ("curl ".toList ++ rest) = some ("curl ".toList ++ rest) :=
    fromCommand?_eq_self (startsCommand_curl startsBlank (' ' :: rest) rfl)
  have hfeed' : '\n' ∉ "curl ".toList ++ rest := by simpa using hfeed
  have hcaret' : '^' ∉ "curl ".toList ++ rest := by simpa using hcaret
  rw [normalizeChars, htrim, hfrom, Option.getD_some, joinLines_eq_self hfeed',
    joinLines_eq_self hfeed', joinLines_eq_self hfeed', bareQuotes_eq_self hcaret',
    dropLastCaret_eq_self hcaret', feedsToSpaces_eq_self hfeed']
  have hname : IsName "curl".toList := .inl (by decide)
  exact plainName_append hname rest

/-- **One line is left**: no line feed comes through. -/
theorem notMem_normalizeChars (cs : List Char) : '\n' ∉ normalizeChars cs :=
  notMem_plainName (notMem_feedsToSpaces _)

end Courier.Command
