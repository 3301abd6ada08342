import Courier.Shell.Words

/-! Words that a shell reads as they are meant.

A written word spells a word if a splitter that meets it in a gap holds that word at its end,
whatever stands behind (`Spells`). In single quotes every word is spelled (`spells_quoteChars`),
by itself a word of plain characters (`spells_plain`); and words that are spelled, with spaces
between them, are the words of the line (`wordsFrom?_intercalate`). -/

namespace Courier.Shell

/-- Read from a gap, `written` leaves a splitter at the end of `word`, outside quotes. -/
def Spells (written word : List Char) : Prop :=
  ∀ rest, wordsFrom? .gap (written ++ rest) = wordsFrom? (.word word.reverse) rest

/-! ### Quoted words -/

/-- Inside single quotes a character is read back from what stands for it: a quote closes the
quotes, comes escaped, and opens them again. -/
theorem wordsFrom?_quoteChar (c : Char) (done rest : List Char) :
    wordsFrom? (.single done) (quoteChar c ++ rest) = wordsFrom? (.single (c :: done)) rest := by
  by_cases hc : c = '\''
  · subst hc
    rfl
  · rw [quoteChar, if_neg hc, List.singleton_append, wordsFrom?, if_neg hc]

theorem wordsFrom?_flatMap_quoteChar (cs done rest : List Char) :
    wordsFrom? (.single done) (cs.flatMap quoteChar ++ rest) =
      wordsFrom? (.single (cs.reverse ++ done)) rest := by
  induction cs generalizing done with
  | nil => rfl
  | cons c cs ih =>
    rw [List.flatMap_cons, List.append_assoc, wordsFrom?_quoteChar, ih, List.reverse_cons,
      List.append_assoc, List.singleton_append]

/-- **Single quotes keep everything**: what is quoted is read as it is, as one word. -/
theorem spells_quoteChars (word : List Char) : Spells (quoteChars word) word := by
  intro rest
  have hopen (cs : List Char) : wordsFrom? .gap ('\'' :: cs) = wordsFrom? (.single []) cs := rfl
  have hclose (done : List Char) :
      wordsFrom? (.single done) ('\'' :: rest) = wordsFrom? (.word done) rest := rfl
  rw [quoteChars, List.cons_append, List.cons_append, hopen, List.append_assoc,
    wordsFrom?_flatMap_quoteChar, List.append_nil, List.singleton_append, hclose]

/-! ### Plain words -/

/-- The characters that mean themselves inside a word outside quotes. -/
def isPlain (c : Char) : Bool :=
  !isSeparator c && c ≠ '"' && c ≠ '\'' && c ≠ '\\'

theorem bare_of_isPlain {c : Char} (h : isPlain c = true) (done : List Char) :
    isSeparator c = false ∧ Place.bare done c = .word (c :: done) := by
  simp only [isPlain, Bool.and_eq_true, Bool.not_eq_true', decide_eq_true_eq] at h
  obtain ⟨⟨⟨hsep, hdouble⟩, hsingle⟩, hescape⟩ := h
  rw [Place.bare, if_neg hdouble, if_neg hsingle, if_neg hescape]
  exact ⟨hsep, rfl⟩

theorem wordsFrom?_plain {cs : List Char} (h : ∀ c ∈ cs, isPlain c = true) (done rest : List Char) :
    wordsFrom? (.word done) (cs ++ rest) = wordsFrom? (.word (cs.reverse ++ done)) rest := by
  induction cs generalizing done with
  | nil => rfl
  | cons c cs ih =>
    obtain ⟨hc, hcs⟩ := List.forall_mem_cons.1 h
    obtain ⟨hsep, hbare⟩ := bare_of_isPlain hc done
    rw [List.cons_append, wordsFrom?, hsep, if_neg (by decide), hbare, ih hcs, List.reverse_cons,
      List.append_assoc, List.singleton_append]

theorem spells_plain {word : List Char} (hne : word ≠ []) (hhead : word.head? ≠ some '#')
    (h : word.all isPlain = true) : Spells word word := by
  intro rest
  obtain ⟨c, cs, rfl⟩ := List.exists_cons_of_ne_nil hne
  obtain ⟨hc, hcs⟩ := List.forall_mem_cons.1 (List.all_eq_true.1 h)
  obtain ⟨hsep, hbare⟩ := bare_of_isPlain hc []
  have hcomment : c ≠ '#' := fun he => hhead (congrArg some he)
  rw [List.cons_append, wordsFrom?, hsep, if_neg (by decide), if_neg hcomment, hbare,
    wordsFrom?_plain hcs, List.reverse_cons]

/-! ### Lines of words -/

/-- **Words with spaces between them are read one by one.** -/
theorem wordsFrom?_intercalate {items : List (List Char × List Char)}
    (h : ∀ item ∈ items, Spells item.1 item.2) :
    wordsFrom? .gap ([' '].intercalate (items.map Prod.fst)) = some (items.map Prod.snd) := by
  induction items with
  | nil => rfl
  | cons item items ih =>
    obtain ⟨hitem, hitems⟩ := List.forall_mem_cons.1 h
    cases items with
    | nil =>
      have hend : wordsFrom? (.word item.2.reverse) [] = some [item.2] := by
        rw [wordsFrom?, List.reverse_reverse]
      rw [List.map_singleton, List.intercalate_singleton, ← List.append_nil item.1, hitem, hend]
      rfl
    | cons next items =>
      have hgap (cs : List Char) : wordsFrom? (.word item.2.reverse) (' ' :: cs) =
          (wordsFrom? .gap cs).map (item.2 :: ·) := by
        rw [wordsFrom?, if_pos (show isSeparator ' ' = true from rfl), List.reverse_reverse]
      rw [List.map_cons, List.map_cons, List.intercalate_cons_cons, List.append_assoc, hitem,
        List.singleton_append, hgap, ← List.map_cons, ih hitems]
      rfl

/-- Before each word there may be any number of spaces, if there is one. -/
theorem wordsFrom?_flatMap_spaces {α : Type} {items : List α} {spaces : α → Nat}
    {written word : α → List Char} (hspaces : ∀ item ∈ items, 0 < spaces item)
    (h : ∀ item ∈ items, Spells (written item) (word item)) (done : List Char) :
    wordsFrom? (.word done)
        (items.flatMap fun item => List.replicate (spaces item) ' ' ++ written item) =
      some (done.reverse :: items.map word) := by
  have hgap (n : Nat) (cs : List Char) :
      wordsFrom? .gap (List.replicate n ' ' ++ cs) = wordsFrom? .gap cs := by
    induction n with
    | zero => rfl
    | succ n ih => exact ih
  induction items generalizing done with
  | nil => rfl
  | cons item items ih =>
    obtain ⟨hitem, hitems⟩ := List.forall_mem_cons.1 h
    obtain ⟨hpos, hrest⟩ := List.forall_mem_cons.1 hspaces
    obtain ⟨n, hn⟩ := Nat.exists_eq_succ_of_ne_zero (Nat.pos_iff_ne_zero.1 hpos)
    have hspace (cs : List Char) : wordsFrom? (.word done) (' ' :: cs) =
        (wordsFrom? .gap cs).map (done.reverse :: ·) := rfl
    rw [List.flatMap_cons, hn, List.replicate_succ, List.cons_append, List.cons_append, hspace,
      List.append_assoc, hgap, hitem, ih hrest hitems, List.reverse_reverse]
    rfl

/-- A line of the strings in the first column is read as the second column. -/
theorem words?_intercalate {α : Type} {items : List α} {written word : α → String}
    (h : ∀ item ∈ items, Spells (written item).toList (word item).toList) :
    words? (" ".intercalate (items.map written)) = some (items.map word) := by
  have hline : (" ".intercalate (items.map written)).toList = [' '].intercalate
      ((items.map fun item => ((written item).toList, (word item).toList)).map Prod.fst) := by
    rw [String.toList_intercalate, List.map_map, List.map_map]
    rfl
  have hspells : ∀ item ∈ items.map fun item => ((written item).toList, (word item).toList),
      Spells item.1 item.2 := by
    simpa only [List.forall_mem_map] using h
  rw [words?, hline, wordsFrom?_intercalate hspells, Option.map_some, List.map_map, List.map_map]
  congr 2
  funext item
  exact String.ofList_toList

/-! ### The characters of words -/

/-- The characters of the word that a splitter holds. -/
def Place.held : Place → List Char
  | .gap | .comment => []
  | .word done | .single done | .double done | .escape done | .doubleEscape done => done

theorem Place.held_bare (done : List Char) (c : Char) : (Place.bare done c).held ⊆ c :: done := by
  unfold Place.bare
  split
  · exact List.subset_cons_self c done
  · split
    · exact List.subset_cons_self c done
    · split
      · exact List.subset_cons_self c done
      · exact List.Subset.refl _

/-- Words hold nothing but what the line holds, and what a place holds already. Only a backslash
may come back later than it was read. -/
theorem notMem_wordsFrom? {x : Char} (hescape : x ≠ '\\') {place : Place} {cs : List Char}
    (hheld : x ∉ place.held) (hcs : x ∉ cs) {words : List (List Char)}
    (h : wordsFrom? place cs = some words) : ∀ word ∈ words, x ∉ word := by
  induction cs generalizing place words with
  | nil =>
    cases place with
    | gap | comment =>
      cases h
      exact nofun
    | word done =>
      cases h
      simpa [Place.held] using hheld
    | single | double | escape | doubleEscape => cases h
  | cons c cs ih =>
    obtain ⟨hc, hcs⟩ : x ≠ c ∧ x ∉ cs := by simpa using hcs
    have hcons {done : List Char} (hdone : x ∉ done) : x ∉ c :: done := by simp [hc, hdone]
    have hbare {done : List Char} (hdone : x ∉ done) : x ∉ (Place.bare done c).held :=
      fun hmem => hcons hdone (Place.held_bare done c hmem)
    have hgap : x ∉ Place.gap.held := List.not_mem_nil
    -- In each place the character goes into the word that is held, ends it, or is dropped.
    cases place with
    | gap =>
      rw [wordsFrom?] at h
      split at h
      · exact ih hgap hcs h
      · split at h
        · exact ih (show x ∉ Place.comment.held from List.not_mem_nil) hcs h
        · exact ih (hbare List.not_mem_nil) hcs h
    | comment =>
      rw [wordsFrom?] at h
      refine ih ?_ hcs h
      split <;> exact List.not_mem_nil
    | word done =>
      have hdone : x ∉ done := hheld
      rw [wordsFrom?] at h
      split at h
      · obtain ⟨more, hmore, rfl⟩ := Option.map_eq_some_iff.1 h
        exact List.forall_mem_cons.2 ⟨by simpa using hdone, ih hgap hcs hmore⟩
      · exact ih (hbare hdone) hcs h
    | single done =>
      have hdone : x ∉ done := hheld
      rw [wordsFrom?] at h
      refine ih ?_ hcs h
      split
      · exact hdone
      · exact hcons hdone
    | double done =>
      have hdone : x ∉ done := hheld
      rw [wordsFrom?] at h
      split at h
      · exact ih (show x ∉ (Place.word done).held from hdone) hcs h
      · split at h
        · exact ih (show x ∉ (Place.doubleEscape done).held from hdone) hcs h
        · exact ih (show x ∉ (Place.double (c :: done)).held from hcons hdone) hcs h
    | escape done =>
      have hdone : x ∉ done := hheld
      rw [wordsFrom?] at h
      refine ih ?_ hcs h
      show x ∉ if c = '\n' then done else c :: done
      split
      · exact hdone
      · exact hcons hdone
    | doubleEscape done =>
      have hdone : x ∉ done := hheld
      have hslash : x ∉ '\\' :: done := by simp [hescape, hdone]
      rw [wordsFrom?] at h
      split at h
      · exact ih (show x ∉ (Place.double done).held from hdone) hcs h
      · split at h
        · exact ih (show x ∉ (Place.double (c :: done)).held from hcons hdone) hcs h
        · exact ih (show x ∉ (Place.double (c :: '\\' :: done)).held from hcons hslash) hcs h

theorem notMem_words? {x : Char} (hescape : x ≠ '\\') {line : String} (hline : x ∉ line.toList)
    {words : List String} (h : words? line = some words) : ∀ word ∈ words, x ∉ word.toList := by
  obtain ⟨read, hread, rfl⟩ := Option.map_eq_some_iff.1 h
  simp only [List.forall_mem_map, String.toList_ofList]
  exact notMem_wordsFrom? hescape (by simp [Place.held]) hline hread

end Courier.Shell
