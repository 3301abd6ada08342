import Mathlib.Data.List.Basic
import Courier.Text.Blank
import Courier.Text.Split

/-! The lines of a text.

A text is a line that nothing ends, or a line, its line feed and the text behind it
(`lines_induction`); cutting it into lines goes along with that (`lines_append_feed`). Put together
again with line feeds, the lines of a text are the text itself, but that a line feed stands for each
pair of a carriage return and a line feed, and that nothing ends the last line
(`intercalate_lines`). -/

namespace Courier.Text

/-- A line without one carriage return at its end. -/
def withoutReturn (line : List Char) : List Char :=
  if line.getLast? = some '\x0d' then line.dropLast else line

/-- The text with a line feed for each carriage return and line feed. -/
def plainFeeds : List Char → List Char
  | [] => []
  | '\x0d' :: '\n' :: cs => '\n' :: plainFeeds cs
  | c :: cs => c :: plainFeeds cs

/-- The text without one line feed at its end. -/
def withoutLastFeed : List Char → List Char
  | [] => []
  | ['\n'] => []
  | c :: cs => c :: withoutLastFeed cs

theorem lines_induction {motive : List Char → Prop} (last : ∀ cs, '\n' ∉ cs → motive cs)
    (feed : ∀ line cs, '\n' ∉ line → motive cs → motive (line ++ '\n' :: cs)) (cs : List Char) :
    motive cs := by
  induction hn : cs.length using Nat.strongRecOn generalizing cs with
  | _ n ih =>
    by_cases hcs : '\n' ∈ cs
    · obtain ⟨line, rest, rfl, hline⟩ := List.eq_append_cons_of_mem hcs
      have hlength : rest.length < n := by
        rw [← hn, List.length_append, List.length_cons]
        omega
      exact feed line rest hline (ih rest.length hlength rest rfl)
    · exact last cs hcs

/-! ### Cutting -/

theorem withoutReturn_prefix_self (line : List Char) : withoutReturn line <+: line := by
  rw [withoutReturn]
  split
  · exact List.dropLast_prefix line
  · exact List.prefix_rfl

theorem withoutReturn_cons {c : Char} {line : List Char} (h : ¬(c = '\x0d' ∧ line = [])) :
    withoutReturn (c :: line) = c :: withoutReturn line := by
  cases line with
  | nil =>
    rw [withoutReturn, if_neg (by simpa using h)]
    rfl
  | cons d line =>
    rw [withoutReturn, withoutReturn, List.getLast?_cons_cons, List.dropLast_cons_cons]
    split <;> rfl

theorem trim_withoutReturn (line : List Char) : trim (withoutReturn line) = trim line := by
  rw [withoutReturn]
  split
  · next h =>
    obtain ⟨front, rfl⟩ := List.getLast?_eq_some_iff.1 h
    rw [List.dropLast_concat, trim_concat (by decide)]
  · rfl

/-- A carriage return that does not end its line stays where it is. -/
theorem not_head?_append_feed {c : Char} {line : List Char} (h : ¬(c = '\x0d' ∧ line = []))
    (hline : '\n' ∉ line) (cs : List Char) :
    ¬(c = '\x0d' ∧ (line ++ '\n' :: cs).head? = some '\n') := by
  intro ⟨hc, hhead⟩
  cases line with
  | nil => exact h ⟨hc, rfl⟩
  | cons d line => exact hline (List.mem_of_head? hhead)

theorem lines_cons {c : Char} {cs : List Char} (hc : c ≠ '\n')
    (hreturn : ¬(c = '\x0d' ∧ cs.head? = some '\n')) :
    lines (c :: cs) =
      match lines cs with
      | [] => [[c]]
      | line :: rest => (c :: line) :: rest := by
  have hnot : ∀ rest, c = '\x0d' → cs = '\n' :: rest → False :=
    fun rest hcr hcs => hreturn ⟨hcr, by rw [hcs, List.head?_cons]⟩
  exact lines.eq_4 c cs hc hnot

theorem lines_of_notMem {cs : List Char} (h : '\n' ∉ cs) (hne : cs ≠ []) : lines cs = [cs] := by
  induction cs with
  | nil => exact absurd rfl hne
  | cons c cs ih =>
    obtain ⟨hc, hcs⟩ := not_or.1 (mt List.mem_cons.2 h)
    have hhead : cs.head? ≠ some '\n' := fun hhead => hcs (List.mem_of_head? hhead)
    rw [lines_cons (Ne.symm hc) fun hreturn => hhead hreturn.2]
    cases cs with
    | nil => rfl
    | cons d cs => rw [ih hcs (List.cons_ne_nil d cs)]

theorem lines_append_feed {line : List Char} (h : '\n' ∉ line) (cs : List Char) :
    lines (line ++ '\n' :: cs) = withoutReturn line :: lines cs := by
  induction line with
  | nil => rfl
  | cons c line ih =>
    obtain ⟨hc, hline⟩ := not_or.1 (mt List.mem_cons.2 h)
    by_cases hreturn : c = '\x0d' ∧ line = []
    · obtain ⟨rfl, rfl⟩ := hreturn
      rfl
    · rw [List.cons_append, lines_cons (Ne.symm hc) (not_head?_append_feed hreturn hline cs),
        ih hline, withoutReturn_cons hreturn]

theorem lines_eq_nil_iff {cs : List Char} : lines cs = [] ↔ cs = [] := by
  refine ⟨?_, fun h => h ▸ rfl⟩
  induction cs using lines_induction with
  | last cs hcs =>
    intro h
    by_contra hne
    rw [lines_of_notMem hcs hne] at h
    cases h
  | feed line cs hline _ =>
    intro h
    rw [lines_append_feed hline] at h
    cases h

/-- A text is cut behind each line feed apart. -/
theorem lines_append (front back : List Char) :
    lines (front ++ '\n' :: back) = lines (front ++ ['\n']) ++ lines back := by
  induction front using lines_induction with
  | last cs hcs => rw [lines_append_feed hcs, lines_append_feed hcs, lines, List.singleton_append]
  | feed line cs hline ih =>
    rw [List.append_assoc, List.cons_append, lines_append_feed hline, ih, List.append_assoc,
      List.cons_append, lines_append_feed hline, List.cons_append]

/-! ### Putting together -/

theorem plainFeeds_cons {c : Char} {cs : List Char} (h : ¬(c = '\x0d' ∧ cs.head? = some '\n')) :
    plainFeeds (c :: cs) = c :: plainFeeds cs := by
  rw [plainFeeds]
  intro rest hc hcs
  exact h ⟨hc, by rw [hcs, List.head?_cons]⟩

theorem plainFeeds_append_feed {line : List Char} (h : '\n' ∉ line) (cs : List Char) :
    plainFeeds (line ++ '\n' :: cs) = withoutReturn line ++ '\n' :: plainFeeds cs := by
  induction line with
  | nil => exact plainFeeds_cons (by simp)
  | cons c line ih =>
    obtain ⟨-, hline⟩ := not_or.1 (mt List.mem_cons.2 h)
    by_cases hreturn : c = '\x0d' ∧ line = []
    · obtain ⟨rfl, rfl⟩ := hreturn
      rfl
    · rw [List.cons_append, plainFeeds_cons (not_head?_append_feed hreturn hline cs), ih hline,
        withoutReturn_cons hreturn, List.cons_append]

/-- Nothing happens to text without the character that a line end begins with. -/
theorem plainFeeds_append {front : List Char} (h : '\x0d' ∉ front) (back : List Char) :
    plainFeeds (front ++ back) = front ++ plainFeeds back := by
  induction front with
  | nil => rfl
  | cons c front ih =>
    obtain ⟨hc, hfront⟩ := not_or.1 (mt List.mem_cons.2 h)
    rw [List.cons_append, plainFeeds_cons fun hreturn => hc hreturn.1.symm, ih hfront,
      List.cons_append]

theorem plainFeeds_of_notMem {cs : List Char} (h : '\n' ∉ cs) : plainFeeds cs = cs := by
  induction cs with
  | nil => rfl
  | cons c cs ih =>
    obtain ⟨-, hcs⟩ := not_or.1 (mt List.mem_cons.2 h)
    rw [plainFeeds_cons fun hreturn => hcs (List.mem_of_head? hreturn.2), ih hcs]

theorem plainFeeds_ne_nil {cs : List Char} (h : cs ≠ []) : plainFeeds cs ≠ [] := by
  fun_cases plainFeeds cs with
  | case1 => exact absurd rfl h
  | case2 => exact nofun
  | case3 => exact nofun

theorem withoutLastFeed_cons {c : Char} {cs : List Char} (h : ¬(c = '\n' ∧ cs = [])) :
    withoutLastFeed (c :: cs) = c :: withoutLastFeed cs := by
  rw [withoutLastFeed]
  exact fun hc hcs => h ⟨hc, hcs⟩

theorem withoutLastFeed_append {front : List Char} (h : '\n' ∉ front) (back : List Char) :
    withoutLastFeed (front ++ back) = front ++ withoutLastFeed back := by
  induction front with
  | nil => rfl
  | cons c front ih =>
    obtain ⟨hc, hfront⟩ := not_or.1 (mt List.mem_cons.2 h)
    rw [List.cons_append, withoutLastFeed_cons fun hfeed => hc hfeed.1.symm, ih hfront,
      List.cons_append]

/-- **The lines of a text make up the text**, with plain line feeds, none of them at its end that
ends the last line. -/
theorem intercalate_lines (cs : List Char) :
    ['\n'].intercalate (lines cs) = withoutLastFeed (plainFeeds cs) := by
  induction cs using lines_induction with
  | last cs hcs =>
    rw [plainFeeds_of_notMem hcs]
    by_cases hne : cs = []
    · rw [hne]
      rfl
    · have hkept := withoutLastFeed_append hcs []
      rw [withoutLastFeed, List.append_nil] at hkept
      rw [lines_of_notMem hcs hne, hkept, List.intercalate_singleton]
  | feed line cs hline ih =>
    have hcut : '\n' ∉ withoutReturn line :=
      fun hmem => hline ((withoutReturn_prefix_self line).subset hmem)
    rw [lines_append_feed hline, plainFeeds_append_feed hline, withoutLastFeed_append hcut]
    cases hlines : lines cs with
    | nil =>
      rw [lines_eq_nil_iff.1 hlines, List.intercalate_singleton]
      exact (List.append_nil _).symm
    | cons next rest =>
      have hne : cs ≠ [] := fun hcs => List.cons_ne_nil next rest (hlines ▸ lines_eq_nil_iff.2 hcs)
      rw [List.intercalate_cons_cons, ← hlines, ih, List.append_assoc, List.singleton_append,
        withoutLastFeed_cons fun hfeed => plainFeeds_ne_nil hne hfeed.2]

end Courier.Text
