import Mathlib.Data.List.Infix
import Courier.Command.Import
import Courier.Proofs.Command.Line
import Courier.Proofs.Shell.Words
import Courier.Proofs.Text.Pieces

/-! The layout of a pasted command.

A command may be spread over lines in the manner of any shell, and stand behind a prompt. A
*separator* is what stands before a word: a space, perhaps more of them, perhaps the end of a line,
which a shell may have marked as one that goes on. Each step of the normalizer takes its part of the
separators (`Separator.join`, `feedsToSpaces_layout`) and leaves what is quoted alone, so only
spaces are left between the words (`normalizeChars_layout`). Hence `parse_layout`: the request, or
the error, is that of the command in one line. -/

namespace Courier.Command
open Text (isBlank)

/-! ### Separators -/

/-- The end of a line: a line feed, or a carriage return before it. -/
inductive LineEnd where
  | feed
  | returnFeed

def LineEnd.chars : LineEnd → List Char
  | .feed => ['\n']
  | .returnFeed => ['\x0d', '\n']

/-- The shells that go on in the next line behind a mark. -/
inductive Continuation where
  | posix
  | cmd
  | powerShell
  deriving DecidableEq

def Continuation.mark : Continuation → Char
  | .posix => '\\'
  | .cmd => '^'
  | .powerShell => '\x60'

/-- How a line ends before a word goes on, if it does: as it is, or marked for a shell. -/
inductive LineBreak where
  | none
  | bare (lineEnd : LineEnd)
  | marked (shell : Continuation) (lineEnd : LineEnd)

def LineBreak.chars : LineBreak → List Char
  | .none => []
  | .bare lineEnd => lineEnd.chars
  | .marked shell lineEnd => shell.mark :: lineEnd.chars

/-- What stands before a word: a space and further ones, perhaps a line end, and spaces behind
it. -/
structure Separator where
  further : Nat := 0
  lineBreak : LineBreak := .none
  indent : Nat := 0

namespace Separator

def chars (s : Separator) : List Char :=
  List.replicate (s.further + 1) ' ' ++ s.lineBreak.chars ++ List.replicate s.indent ' '

/-- The separator when a shell has joined the lines that it continues. -/
def join (shell : Continuation) : Separator → Separator
  | ⟨further, .marked other lineEnd, indent⟩ =>
    if other = shell then ⟨further + 1, .none, indent⟩ else ⟨further, .marked other lineEnd, indent⟩
  | s => s

/-- The spaces that are left of a separator in the end. -/
def width (s : Separator) : Nat :=
  match s.lineBreak with
  | .none => s.further + 1 + s.indent
  | _ => s.further + 2 + s.indent

end Separator

/-- Words in single quotes, each behind its separator. -/
def layout (items : List (Separator × String)) : List Char :=
  items.flatMap fun item => item.1.chars ++ Shell.quoteChars item.2.toList

/-- The same words with as many spaces before them as are left in the end. -/
def spaced (items : List (Separator × String)) : List Char :=
  items.flatMap fun item => List.replicate item.1.width ' ' ++ Shell.quoteChars item.2.toList

/-! ### Joining lines -/

/-- Quoting brings nothing into a word but quotes and backslashes. -/
theorem notMem_quoted {c : Char} (hquote : c ≠ '\'') (hescape : c ≠ '\\') {word : List Char}
    (hc : c ∉ word) : c ∉ word.flatMap Shell.quoteChar := by
  simp only [List.mem_flatMap, not_exists, not_and]
  intro d hd
  have hne : c ≠ d := fun h => hc (h ▸ hd)
  unfold Shell.quoteChar
  split <;> simp [hquote, hescape, hne]

/-- What stands between the quotes of a word, with the one that opens them. -/
theorem feed_notMem_opened {word : List Char} (h : '\n' ∉ word) :
    '\n' ∉ '\'' :: word.flatMap Shell.quoteChar := by
  simpa using notMem_quoted (by decide) (by decide) h

theorem mark_ne (shell : Continuation) : shell.mark ≠ ' ' ∧ shell.mark ≠ '\'' := by
  cases shell <;> decide

/-- A quoted word is passed over, whatever marks it has: behind the last of them stands the quote
that closes it. -/
theorem joinLines_quoteChars (shell : Continuation) {word : List Char} (h : '\n' ∉ word)
    (rest : List Char) :
    joinLines shell.mark (Shell.quoteChars word ++ rest) =
      Shell.quoteChars word ++ joinLines shell.mark rest := by
  have hpass := joinLines_append_cons (feed_notMem_opened h) (by decide) (mark_ne shell).2.symm rest
  simpa [Shell.quoteChars] using hpass

/-- A line end behind a mark is found, up to the first character that is not blank. -/
theorem afterFeeds?_lineEnd (lineEnd : LineEnd) (n : Nat) (rest : List Char) :
    afterFeeds? (lineEnd.chars ++ (List.replicate n ' ' ++ '\'' :: rest)) =
      some (List.replicate n ' ' ++ '\'' :: rest) := by
  have hfeed : afterFeeds? ('\n' :: (List.replicate n ' ' ++ '\'' :: rest)) =
      some (List.replicate n ' ' ++ '\'' :: rest) := by
    have hnone : afterFeeds? (List.replicate n ' ' ++ '\'' :: rest) = none :=
      afterFeeds?_append_cons (by simp [List.mem_replicate]) (by decide) rest
    rw [afterFeeds?, hnone]
    rfl
  cases lineEnd with
  | feed => exact hfeed
  | returnFeed =>
    show afterFeeds? ('\x0d' :: '\n' :: (List.replicate n ' ' ++ '\'' :: rest)) = _
    rw [afterFeeds?, hfeed]
    rfl

theorem joinLines_append_of_notMem {mark : Char} {u : List Char} (h : mark ∉ u) (rest : List Char) :
    joinLines mark (u ++ rest) = u ++ joinLines mark rest :=
  replaceMarks_append_of_notMem h rest

theorem mark_notMem_spaces (shell : Continuation) (n : Nat) :
    shell.mark ∉ List.replicate n ' ' := by
  simp [mark_ne]

theorem mark_notMem_lineEnd (shell : Continuation) (lineEnd : LineEnd) :
    shell.mark ∉ lineEnd.chars := by
  cases shell <;> cases lineEnd <;> decide

theorem mark_notMem_marked {shell other : Continuation} (h : other ≠ shell) (lineEnd : LineEnd) :
    shell.mark ∉ (LineBreak.marked other lineEnd).chars := by
  have hmark : shell.mark ≠ other.mark := by
    cases shell <;> cases other <;> first | exact absurd rfl h | decide
  simp [LineBreak.chars, hmark, mark_notMem_lineEnd]

/-- A separator before a quoted word loses its line end if the shell has marked it, and stays as it
is otherwise. -/
theorem joinLines_separator (shell : Continuation) (s : Separator) (rest : List Char) :
    joinLines shell.mark (s.chars ++ '\'' :: rest) =
      (s.join shell).chars ++ joinLines shell.mark ('\'' :: rest) := by
  obtain ⟨further, lineBreak, indent⟩ := s
  have hkeep (h : shell.mark ∉ lineBreak.chars) :
      joinLines shell.mark ((Separator.mk further lineBreak indent).chars ++ '\'' :: rest) =
        (Separator.mk further lineBreak indent).chars ++ joinLines shell.mark ('\'' :: rest) := by
    apply joinLines_append_of_notMem
    simp [Separator.chars, h, mark_ne]
  cases lineBreak with
  | none => exact hkeep (by simp [LineBreak.chars])
  | bare lineEnd => exact hkeep (mark_notMem_lineEnd shell lineEnd)
  | marked other lineEnd =>
    by_cases hother : other = shell
    · subst hother
      have hmark : joinLines other.mark
          (other.mark :: (lineEnd.chars ++ (List.replicate indent ' ' ++ '\'' :: rest))) =
            ' ' :: joinLines other.mark (List.replicate indent ' ' ++ '\'' :: rest) :=
        replaceMarks_of_some (afterFeeds?_lineEnd lineEnd indent rest)
      simp only [Separator.join, if_true, Separator.chars, LineBreak.chars, List.append_assoc,
        List.cons_append, List.nil_append]
      rw [joinLines_append_of_notMem (mark_notMem_spaces other _), hmark,
        joinLines_append_of_notMem (mark_notMem_spaces other _), List.replicate_succ' (n := further + 1)]
      simp
    · simp only [Separator.join, if_neg hother]
      exact hkeep (mark_notMem_marked hother lineEnd)

/-- **A shell's mark goes from every separator**, and nothing else changes. -/
theorem joinLines_layout (shell : Continuation) {items : List (Separator × String)}
    (h : ∀ item ∈ items, '\n' ∉ item.2.toList) :
    joinLines shell.mark (layout items) =
      layout (items.map fun item => (item.1.join shell, item.2)) := by
  induction items with
  | nil => exact replaceMarks_nil
  | cons item items ih =>
    obtain ⟨hitem, hitems⟩ := List.forall_mem_cons.1 h
    have hword : joinLines shell.mark (Shell.quoteChars item.2.toList ++ layout items) =
        Shell.quoteChars item.2.toList ++ joinLines shell.mark (layout items) :=
      joinLines_quoteChars shell hitem _
    have hseparator : joinLines shell.mark
        (item.1.chars ++ (Shell.quoteChars item.2.toList ++ layout items)) =
          (item.1.join shell).chars ++
            joinLines shell.mark (Shell.quoteChars item.2.toList ++ layout items) :=
      joinLines_separator shell item.1 _
    simp only [layout, List.flatMap_cons, List.map_cons, List.append_assoc] at *
    rw [hseparator, hword, ih hitems]

/-! ### Line ends that are left -/

/-- A separator when all shells have joined their lines. -/
def Separator.joined (s : Separator) : Separator :=
  ((s.join .posix).join .cmd).join .powerShell

theorem Separator.joined_marked (further indent : Nat) (shell : Continuation) (lineEnd : LineEnd) :
    (Separator.mk further (.marked shell lineEnd) indent).joined = ⟨further + 1, .none, indent⟩ := by
  cases shell <;> rfl

theorem feedsToSpaces_spaces (n : Nat) (cs : List Char) :
    feedsToSpaces (List.replicate n ' ' ++ cs) = List.replicate n ' ' ++ feedsToSpaces cs := by
  induction n with
  | zero => rfl
  | succ n ih => exact congrArg (' ' :: ·) ih

theorem feedsToSpaces_lineEnd (lineEnd : LineEnd) (cs : List Char) :
    feedsToSpaces (lineEnd.chars ++ cs) = ' ' :: feedsToSpaces cs := by
  cases lineEnd <;> rfl

theorem feedsToSpaces_joined (s : Separator) (cs : List Char) :
    feedsToSpaces (s.joined.chars ++ cs) = List.replicate s.width ' ' ++ feedsToSpaces cs := by
  have hspaces (further indent : Nat) :
      feedsToSpaces ((Separator.mk further .none indent).chars ++ cs) =
        List.replicate (further + 1 + indent) ' ' ++ feedsToSpaces cs := by
    simp only [Separator.chars, LineBreak.chars, List.append_nil, List.replicate_append_replicate]
    exact feedsToSpaces_spaces _ cs
  obtain ⟨further, lineBreak, indent⟩ := s
  cases lineBreak with
  | none => exact hspaces further indent
  | bare lineEnd =>
    show feedsToSpaces ((Separator.mk further (.bare lineEnd) indent).chars ++ cs) = _
    have hwidth : List.replicate (further + 2 + indent) ' ' =
        List.replicate (further + 1) ' ' ++ ' ' :: List.replicate indent ' ' := by
      rw [← List.replicate_succ, List.replicate_append_replicate]
      congr 1
      omega
    simp only [Separator.chars, LineBreak.chars, Separator.width, List.append_assoc, hwidth]
    rw [feedsToSpaces_spaces, feedsToSpaces_lineEnd, feedsToSpaces_spaces, List.cons_append]
  | marked shell lineEnd =>
    rw [Separator.joined_marked, hspaces]
    rfl

theorem feedsToSpaces_quoteChars {word : List Char} (h : '\n' ∉ word) (rest : List Char) :
    feedsToSpaces (Shell.quoteChars word ++ rest) =
      Shell.quoteChars word ++ feedsToSpaces rest := by
  have hclose : feedsToSpaces ('\'' :: rest) = '\'' :: feedsToSpaces rest := rfl
  have hpass : feedsToSpaces (('\'' :: word.flatMap Shell.quoteChar) ++ '\'' :: rest) =
      ('\'' :: word.flatMap Shell.quoteChar) ++ feedsToSpaces ('\'' :: rest) :=
    feedsToSpaces_append (feed_notMem_opened h) (by simp)
  simpa [Shell.quoteChars, hclose] using hpass

/-- **Only spaces are left** between the words when the remaining line ends go. -/
theorem feedsToSpaces_layout {items : List (Separator × String)}
    (h : ∀ item ∈ items, '\n' ∉ item.2.toList) :
    feedsToSpaces (layout (items.map fun item => (item.1.joined, item.2))) = spaced items := by
  induction items with
  | nil => rfl
  | cons item items ih =>
    obtain ⟨hitem, hitems⟩ := List.forall_mem_cons.1 h
    have htail := ih hitems
    simp only [layout, spaced, List.map_cons, List.flatMap_cons, List.append_assoc] at htail ⊢
    rw [feedsToSpaces_joined, feedsToSpaces_quoteChars hitem, htail]

/-! ### The command in one line -/

/-- The text starts with the name of the command and a blank behind it. -/
def StartsCommand (cs : List Char) : Prop :=
  ∃ name blank rest, cs = name ++ blank :: rest ∧ isBlank blank = true ∧ IsName name

theorem StartsCommand.append {cs : List Char} (h : StartsCommand cs) (more : List Char) :
    StartsCommand (cs ++ more) := by
  obtain ⟨name, blank, rest, rfl, hblank, hname⟩ := h
  exact ⟨name, blank, rest ++ more, by simp, hblank, hname⟩

theorem startsBlank_iff {cs : List Char} :
    startsBlank cs = true ↔ ∃ blank rest, cs = blank :: rest ∧ isBlank blank = true := by
  cases cs <;> simp [startsBlank]

theorem startsCommand_iff {cs : List Char} :
    startsCommand startsBlank cs = true ↔ StartsCommand cs := by
  unfold startsCommand
  constructor
  · intro h
    split at h
    · cases h
    · next rest hcurl =>
      obtain ⟨name, rfl, hname⟩ := afterWord?_eq_some_iff.1 hcurl
      rcases Bool.or_eq_true_iff.1 h with h | h
      · obtain ⟨blank, rest, rfl, hblank⟩ := startsBlank_iff.1 h
        exact ⟨name, blank, rest, rfl, hblank, .inl hname⟩
      · obtain ⟨back, hexe, hback⟩ := (Option.any_eq_true ..).1 h
        obtain ⟨ending, rfl, hending⟩ := afterWord?_eq_some_iff.1 hexe
        obtain ⟨blank, rest, rfl, hblank⟩ := startsBlank_iff.1 hback
        refine ⟨name ++ ending, blank, rest, by simp, hblank, .inr ?_⟩
        rw [List.map_append, hname, hending]
        rfl
  · rintro ⟨name, blank, rest, rfl, hblank, hname | hname⟩
    · rw [afterWord?_eq_some_iff.2 ⟨name, rfl, hname⟩]
      simp [startsBlank, hblank]
    · have hcut : name = name.take 4 ++ name.drop 4 := (List.take_append_drop ..).symm
      have hcurl : (name.take 4).map Char.toLower = "curl".toList := by
        rw [List.map_take, hname]
        rfl
      have hexe : (name.drop 4).map Char.toLower = ".exe".toList := by
        rw [List.map_drop, hname]
        rfl
      rw [hcut, List.append_assoc, afterWord?_eq_some_iff.2 ⟨_, rfl, hcurl⟩]
      simp only [afterWord?_eq_some_iff.2 ⟨_, rfl, hexe⟩]
      simp [startsBlank, hblank]

instance (name : List Char) : Decidable (IsName name) :=
  inferInstanceAs (Decidable (_ ∨ _))

instance (cs : List Char) : Decidable (StartsCommand cs) :=
  decidable_of_iff _ startsCommand_iff

/-- Blanks at the ends go from a text that has none at its own ends. -/
theorem trim_append {before text after : List Char}
    (hhead : ∀ c, text.head? = some c → isBlank c = false)
    (hlast : ∀ c, text.getLast? = some c → isBlank c = false) (hne : text ≠ [])
    (hafter : ∀ c ∈ after, isBlank c = true) :
    Text.trim (before ++ text ++ after) = Text.trimStart before ++ text := by
  have hstart : Text.trimStart (before ++ text) = Text.trimStart before ++ text := by
    obtain ⟨c, cs, rfl⟩ := List.exists_cons_of_ne_nil hne
    have hc : isBlank c = false := hhead c rfl
    simp only [Text.trimStart, List.dropWhile_append]
    split
    · next hempty => simp [List.isEmpty_iff.1 hempty, hc]
    · rfl
  have hend : Text.trimEnd (Text.trimStart before ++ text) = Text.trimStart before ++ text := by
    rw [Text.trimEnd, Text.trimStart_eq_self, List.reverse_reverse]
    rw [List.head?_reverse, List.getLast?_append_of_ne_nil _ hne]
    exact hlast
  rw [Text.trim_append_blank _ hafter, Text.trim, hstart, hend]

/-- What stands before the first command goes. -/
theorem fromCommand?_append {prompt text : List Char} (htext : StartsCommand text)
    (h : ∀ before after, prompt = before ++ after → after ≠ [] → ¬StartsCommand (after ++ text)) :
    fromCommand? (prompt ++ text) = some text := by
  induction prompt with
  | nil => exact fromCommand?_eq_self (startsCommand_iff.2 htext)
  | cons c prompt ih =>
    have hc : ¬startsCommand startsBlank (c :: (prompt ++ text)) = true := fun hstart =>
      h [] (c :: prompt) rfl (by simp) (startsCommand_iff.1 hstart)
    rw [List.cons_append, fromCommand?, if_neg hc]
    exact ih fun before after hprompt => h (c :: before) after (by rw [hprompt, List.cons_append])

/-- No command starts within the prompt that stands before a text. -/
def IsPrompt (prompt text : List Char) : Prop :=
  ∀ before after, prompt = before ++ after → after ≠ [] → ¬StartsCommand (after ++ text)

instance (prompt text : List Char) : Decidable (IsPrompt prompt text) :=
  decidable_of_iff (∀ after ∈ prompt.tails, after ≠ [] → ¬StartsCommand (after ++ text)) (by
    simp only [List.mem_tails]
    constructor
    · exact fun h before after hprompt => h after ⟨before, hprompt.symm⟩
    · rintro h after ⟨before, hprompt⟩
      exact h before after hprompt.symm)

theorem IsName.notMem {name : List Char} (h : IsName name) {c : Char}
    (hc : c.toLower ∉ "curl.exe".toList) : c ∉ name := by
  intro hmem
  have hlower : c.toLower ∈ name.map Char.toLower := List.mem_map_of_mem hmem
  rcases h with h | h <;> rw [h] at hlower
  · exact hc (List.mem_of_mem_take (i := 4) hlower)
  · exact hc hlower

theorem IsName.head {name : List Char} (h : IsName name) :
    ∃ c rest, name = c :: rest ∧ isBlank c = false := by
  cases name with
  | nil => rcases h with h | h <;> cases h
  | cons c rest =>
    have hc : c.toLower = 'c' := by rcases h with h | h <;> exact (List.cons.inj h).1
    refine ⟨c, rest, rfl, ?_⟩
    unfold Char.toLower at hc
    split at hc
    · next hupper =>
      have hlow : 0x41 ≤ c.toNat := UInt32.le_iff_toNat_le.1 hupper.1
      have hhigh : c.toNat ≤ 0x5A := UInt32.le_iff_toNat_le.1 hupper.2
      simp [isBlank]
      omega
    · subst hc
      decide

theorem layout_cons (item : Separator × String) (items : List (Separator × String)) :
    ∃ rest, layout (item :: items) = ' ' :: rest :=
  ⟨_, rfl⟩

theorem getLast?_layout {items : List (Separator × String)} (h : items ≠ []) :
    (layout items).getLast? = some '\'' := by
  obtain ⟨front, last, rfl⟩ := (List.eq_nil_or_concat items).resolve_left h
  simp only [layout, List.concat_eq_append, List.flatMap_append, List.flatMap_singleton,
    Shell.quoteChars, ← List.append_assoc]
  exact List.getLast?_concat

theorem Separator.width_pos (s : Separator) : 0 < s.width := by
  unfold Separator.width
  split <;> omega

theorem spaced_cons (item : Separator × String) (items : List (Separator × String)) :
    ∃ rest, spaced (item :: items) = ' ' :: rest := by
  obtain ⟨n, hn⟩ := Nat.exists_eq_succ_of_ne_zero item.1.width_pos.ne'
  refine ⟨List.replicate n ' ' ++ (Shell.quoteChars item.2.toList ++ spaced items), ?_⟩
  simp [spaced, hn, List.replicate_succ]

/-- No caret stands in a layout any more when the shells have joined their lines. -/
theorem caret_notMem_joined {items : List (Separator × String)}
    (h : ∀ item ∈ items, '^' ∉ item.2.toList) :
    '^' ∉ layout (items.map fun item => (item.1.joined, item.2)) := by
  have hseparator (s : Separator) : '^' ∉ s.joined.chars := by
    obtain ⟨further, lineBreak, indent⟩ := s
    cases lineBreak with
    | none => simp [Separator.joined, Separator.join, Separator.chars, LineBreak.chars]
    | bare lineEnd =>
      have hend : '^' ∉ lineEnd.chars := mark_notMem_lineEnd .cmd lineEnd
      simp [Separator.joined, Separator.join, Separator.chars, LineBreak.chars, hend]
    | marked shell lineEnd =>
      simp [Separator.joined_marked, Separator.chars, LineBreak.chars]
  simp only [layout, List.mem_flatMap, List.mem_map, List.mem_append, not_exists, not_and, not_or]
  rintro _ ⟨item, hmem, rfl⟩
  exact ⟨hseparator item.1,
    by simpa [Shell.quoteChars] using notMem_quoted (by decide) (by decide) (h item hmem)⟩

/-- **What is left of a layout**: the plain name, and the quoted words behind spaces. -/
theorem normalizeChars_layout {prompt name trail : List Char} {items : List (Separator × String)}
    (hname : IsName name) (hprompt : IsPrompt prompt (name ++ layout items ++ trail))
    (hne : items ≠ []) (hfeed : ∀ item ∈ items, '\n' ∉ item.2.toList)
    (hcaret : ∀ item ∈ items, '^' ∉ item.2.toList) (htrail : ∀ c ∈ trail, isBlank c = true) :
    normalizeChars (prompt ++ (name ++ layout items) ++ trail) = "curl".toList ++ spaced items := by
  obtain ⟨first, others, rfl⟩ := List.exists_cons_of_ne_nil hne
  obtain ⟨c, tail, hcons, hc⟩ := hname.head
  obtain ⟨laidRest, hlaid⟩ := layout_cons first others
  obtain ⟨spacedRest, hspaced⟩ := spaced_cons first others
  set items := first :: others
  have htrim : Text.trim (prompt ++ (name ++ layout items) ++ trail) =
      Text.trimStart prompt ++ (name ++ layout items) := by
    apply trim_append _ _ (by simp [hcons]) htrail
    · rw [hcons]
      rintro d ⟨⟩
      exact hc
    · rw [List.getLast?_append_of_ne_nil _ (by simp [hlaid]), getLast?_layout hne]
      rintro d ⟨⟩
      decide
  have hstarts : StartsCommand (name ++ layout items) :=
    ⟨name, ' ', laidRest, by rw [hlaid], by decide, hname⟩
  have hfrom : fromCommand? (Text.trimStart prompt ++ (name ++ layout items)) =
      some (name ++ layout items) := by
    apply fromCommand?_append hstarts
    intro before after hafter hne hstart
    obtain ⟨blanks, hblanks⟩ : Text.trimStart prompt <:+ prompt := List.dropWhile_suffix _
    refine hprompt (blanks ++ before) after ?_ hne ?_
    · rw [← hblanks, hafter, List.append_assoc]
    · simpa using hstart.append trail
  have hpass (shell : Continuation) (rest : List Char) :
      joinLines shell.mark (name ++ rest) = name ++ joinLines shell.mark rest := by
    apply joinLines_append_of_notMem
    exact hname.notMem (by cases shell <;> decide)
  have hjoin : joinLines '\x60' (joinLines '^' (joinLines '\\' (name ++ layout items))) =
      name ++ layout (items.map fun item => (item.1.joined, item.2)) := by
    show joinLines (Continuation.mark .powerShell) (joinLines (Continuation.mark .cmd)
      (joinLines (Continuation.mark .posix) (name ++ layout items))) = _
    rw [hpass, joinLines_layout .posix hfeed, hpass, joinLines_layout .cmd, hpass,
      joinLines_layout .powerShell]
    · simp only [List.map_map]
      rfl
    · exact List.forall_mem_map.2 (List.forall_mem_map.2 hfeed)
    · exact List.forall_mem_map.2 hfeed
  have hnoCaret : '^' ∉ name ++ layout (items.map fun item => (item.1.joined, item.2)) := by
    simpa using ⟨hname.notMem (by decide), caret_notMem_joined hcaret⟩
  rw [normalizeChars, htrim, hfrom, Option.getD_some, hjoin, bareQuotes_eq_self hnoCaret,
    dropLastCaret_eq_self hnoCaret, feedsToSpaces_append (hname.notMem (by decide)),
    feedsToSpaces_layout hfeed, hspaced, plainName_append hname]
  · rfl
  · obtain ⟨rest, hrest⟩ := layout_cons (first.1.joined, first.2)
      (others.map fun item => (item.1.joined, item.2))
    rw [List.map_cons, hrest]
    simp

/-! ### What the command makes -/

/-- The words of a layout make the request. -/
theorem parse_of_layout {prompt name trail : List Char} {items : List (Separator × String)}
    (hname : IsName name) (hprompt : IsPrompt prompt (name ++ layout items ++ trail))
    (hne : items ≠ []) (hfeed : ∀ item ∈ items, '\n' ∉ item.2.toList)
    (hcaret : ∀ item ∈ items, '^' ∉ item.2.toList) (htrail : ∀ c ∈ trail, isBlank c = true) :
    parse (String.ofList (prompt ++ (name ++ layout items) ++ trail)) =
      ofWords ("curl" :: items.map Prod.snd) := by
  have hline : normalize (String.ofList (prompt ++ (name ++ layout items) ++ trail)) =
      String.ofList ("curl".toList ++ spaced items) := by
    rw [normalize, String.toList_ofList,
      normalizeChars_layout hname hprompt hne hfeed hcaret htrail]
  have hcommand : isCommand (String.ofList ("curl".toList ++ spaced items)) = true := by
    obtain ⟨first, others, rfl⟩ := List.exists_cons_of_ne_nil hne
    obtain ⟨rest, hrest⟩ := spaced_cons first others
    rw [isCommand, String.toList_ofList, hrest]
    exact startsCommand_curl _ _ rfl
  have hwords : Shell.words? (String.ofList ("curl".toList ++ spaced items)) =
      some ("curl" :: items.map Prod.snd) := by
    have hcurl : Shell.Spells "curl".toList "curl".toList :=
      Shell.spells_plain (by decide) (by decide) (by decide)
    rw [Shell.words?, String.toList_ofList, hcurl, spaced,
      Shell.wordsFrom?_flatMap_spaces (fun item _ => item.1.width_pos)
        (fun item _ => Shell.spells_quoteChars item.2.toList)]
    simp
  simp only [parse, hline, hcommand, hwords, if_true]

theorem isPrompt_nil (text : List Char) : IsPrompt [] text := by
  intro before after h hafter
  exact absurd (List.append_eq_nil_iff.1 h.symm).2 hafter

/-- A line with single spaces is a layout too. -/
theorem line_eq_layout (items : List (Separator × String)) :
    " ".intercalate ("curl" :: items.map fun item => Shell.quote item.2) =
      String.ofList ("curl".toList ++ layout (items.map fun item => ({}, item.2))) := by
  have hline : (" ".intercalate ("curl" :: items.map fun item => Shell.quote item.2)).toList =
      [' '].intercalate ("curl".toList :: items.map fun item => Shell.quoteChars item.2.toList) := by
    rw [String.toList_intercalate, List.map_cons, List.map_map]
    simp [Function.comp_def, Shell.quote]
  rw [← String.toList_inj, hline, Text.intercalate_cons, String.toList_ofList, layout]
  simp [List.flatMap_map, Separator.chars, LineBreak.chars]

/-- A command in one line, with its words in single quotes. -/
def commandLine (words : List String) : String :=
  " ".intercalate ("curl" :: words.map Shell.quote)

theorem parse_commandLine {words : List String} (hne : words ≠ [])
    (hfeed : ∀ word ∈ words, '\n' ∉ word.toList) (hcaret : ∀ word ∈ words, '^' ∉ word.toList) :
    parse (commandLine words) = ofWords ("curl" :: words) := by
  let items : List (Separator × String) := words.map fun word => ({}, word)
  have hquoted : words.map Shell.quote = items.map fun item => Shell.quote item.2 := by
    simp [items]
  have hwords : items.map Prod.snd = words := by simp [items, Function.comp_def]
  have hsingle : (items.map fun item => (({} : Separator), item.2)) = items := by simp [items]
  have hlaid : parse (String.ofList ([] ++ ("curl".toList ++ layout items) ++ [])) =
      ofWords ("curl" :: items.map Prod.snd) :=
    parse_of_layout (.inl (by decide)) (isPrompt_nil _) (by simpa [items] using hne)
      (List.forall_mem_map.2 hfeed) (List.forall_mem_map.2 hcaret) (by simp)
  rw [commandLine, hquoted, line_eq_layout, hsingle, ← hwords, ← hlaid, List.nil_append,
    List.append_nil]

/-- **The layout of a pasted command does not matter.** Words in single quotes, without line feeds
and carets: with any separators, behind any prompt, with the name of the command in any letter case
and blanks at the end, they make the same request, or the same error, as in one line. -/
theorem parse_layout {prompt name trail : List Char} {items : List (Separator × String)}
    (hname : IsName name) (hprompt : IsPrompt prompt (name ++ layout items ++ trail))
    (hne : items ≠ []) (hfeed : ∀ item ∈ items, '\n' ∉ item.2.toList)
    (hcaret : ∀ item ∈ items, '^' ∉ item.2.toList) (htrail : ∀ c ∈ trail, isBlank c = true) :
    parse (String.ofList (prompt ++ (name ++ layout items) ++ trail)) =
      parse (" ".intercalate ("curl" :: items.map fun item => Shell.quote item.2)) := by
  let single : List (Separator × String) := items.map fun item => ({}, item.2)
  have hsingle : parse (String.ofList ([] ++ ("curl".toList ++ layout single) ++ [])) =
      ofWords ("curl" :: single.map Prod.snd) :=
    parse_of_layout (.inl (by decide)) (isPrompt_nil _) (by simpa [single] using hne)
      (List.forall_mem_map.2 hfeed) (List.forall_mem_map.2 hcaret) (by simp)
  have hwords : single.map Prod.snd = items.map Prod.snd := by simp [single, Function.comp_def]
  rw [parse_of_layout hname hprompt hne hfeed hcaret htrail, line_eq_layout, ← hwords, ← hsingle,
    List.nil_append, List.append_nil]

/-- Words with marks of all shells at their ends, behind separators of all kinds. -/
def acrossShells : List (Separator × String) :=
  [({ further := 2 }, "-XPUT"), ({ lineBreak := .marked .posix .feed, indent := 4 }, "it's \\"),
    ({ lineBreak := .marked .cmd .returnFeed }, "curl \x60"),
    ({ lineBreak := .marked .powerShell .feed }, "\""), ({ lineBreak := .bare .returnFeed }, ""),
    ({ lineBreak := .bare .feed, indent := 1 }, "https://a.test/?q=1")]

theorem parse_layout_acrossShells :
    parse (String.ofList (" PS C:\\curl^> ".toList ++ ("Curl.EXE".toList ++ layout acrossShells) ++
        "\x0d\n ".toList)) =
      parse (" ".intercalate ("curl" :: acrossShells.map fun item => Shell.quote item.2)) :=
  parse_layout (by decide) (by decide) (by decide) (by decide) (by decide)
    (List.all_eq_true.1 (by decide))

end Courier.Command
