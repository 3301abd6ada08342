import Courier.Proofs.Json.Reading
import Courier.Proofs.Text.Lines

/-! The lines of JSON text.

No token goes over the end of a line: a line feed and a carriage return stand in no number, word or
string. So what stands behind a line feed can be cut into tokens by itself (`exists_all?_of_feed`).
What a line begins with, blanks apart, is what a token begins with, and that is never a slash
(`head?_trimStart`). And writing the line ends another way leaves the tokens as they are
(`all?_plain`). -/

namespace Courier.Json.Token

open Text (plainFeeds withoutLastFeed)

/-! ### What a line begins with -/

theorem first_of_word? {c : Char} {cs : List Char} {r : Token × List Char}
    (h : word? (c :: cs) = some r) : c = 'n' ∨ c = 't' ∨ c = 'f' := by
  have hfirst (first : Char) (word : List Char)
      (hword : (first :: word).isPrefixOf (c :: cs) = true) : c = first :=
    (List.cons_prefix_cons.1 (List.isPrefixOf_iff_prefix.1 hword)).1.symm
  unfold word? at h
  split at h
  · next hnull => exact .inl (hfirst 'n' "ull".toList hnull)
  · split at h
    · next htrue => exact .inr (.inl (hfirst 't' "rue".toList htrue))
    · split at h
      · next hfalse => exact .inr (.inr (hfirst 'f' "alse".toList hfalse))
      · cases h

/-- No token begins with a blank of any kind, or with a slash. -/
theorem isBlank_of_read? {c : Char} {cs : List Char} {r : Token × List Char}
    (h : read? c cs = some r) : Text.isBlank c = false ∧ c ≠ '/' := by
  unfold read? at h
  split at h
  case h_8 =>
    split at h
    · next hc =>
      rcases hc with rfl | hdigit
      · decide
      · refine ⟨Numeral.isBlank_of_isDigit hdigit, fun hslash => ?_⟩
        rw [hslash] at hdigit
        exact absurd hdigit (by decide)
    · rcases first_of_word? h with rfl | rfl | rfl <;> decide
  all_goals decide

/-- No text that can be cut into tokens begins with a slash. -/
theorem head?_trimStart {cs : List Char} {tokens : List Token} (h : all? cs = some tokens) :
    (Text.trimStart cs).head? ≠ some '/' := by
  induction cs with
  | nil => nofun
  | cons c cs ih =>
    cases hc : isSpace c with
    | true =>
      rw [all?_cons_of_isSpace hc] at h
      rw [Text.trimStart, List.dropWhile_cons_of_pos (isBlank_of_isSpace hc)]
      exact ih h
    | false =>
      obtain ⟨_, _, _, hread, -, -⟩ := exists_of_all?_cons hc h
      obtain ⟨hblank, hne⟩ := isBlank_of_read? hread
      rw [Text.trimStart, List.dropWhile_cons_of_neg (by simp [hblank])]
      exact fun hhead => hne (Option.some.inj hhead)

/-! ### Behind a line feed -/

/-- What stands behind a line feed is cut into tokens by itself. -/
theorem exists_all?_of_feed {front back : List Char} {tokens : List Token}
    (h : all? (front ++ '\n' :: back) = some tokens) : ∃ behind, all? back = some behind := by
  generalize hcs : front ++ '\n' :: back = cs at h
  fun_induction all? cs generalizing front tokens with
  | case1 => simp at hcs
  | case2 c cs hc ih =>
    cases front with
    | nil =>
      cases hcs
      exact ⟨tokens, h⟩
    | cons d front =>
      cases hcs
      exact ih rfl h
  | case3 => cases h
  | case4 c cs hc next rest hread _ ih =>
    obtain ⟨more, hmore, -⟩ := Option.map_eq_some_iff.1 h
    cases front with
    | nil =>
      cases hcs
      exact absurd rfl hc
    | cons d front =>
      obtain ⟨used, rfl, hused, -⟩ := takes_read? hread
      have hcs : front ++ '\n' :: back = used ++ rest := (List.cons.inj hcs).2
      -- The line feed does not stand in what the token takes, so it stands in the rest.
      rcases List.append_eq_append_iff.1 hcs with ⟨gap, hgap, hgap'⟩ | ⟨gap, hgap, hgap'⟩
      · cases gap with
        | nil =>
          have hrest : [] ++ '\n' :: back = rest := hgap'
          exact ih hrest hmore
        | cons e gap =>
          obtain ⟨rfl, -⟩ := List.cons.inj hgap'
          have hmem : '\n' ∈ c :: used := by simp [hgap]
          exact absurd hmem (hused.notMem (by decide))
      · exact ih hgap'.symm hmore

/-! ### Line ends -/

theorem next?_withoutLastFeed {c : Char} (hc : isSpace c = true) (cs : List Char) :
    next? (withoutLastFeed (c :: cs)) = none := by
  by_cases hlast : c = '\n' ∧ cs = []
  · obtain ⟨rfl, rfl⟩ := hlast
    rfl
  · rw [Text.withoutLastFeed_cons hlast, next?_cons_of_isSpace hc]

theorem all?_withoutLastFeed {c : Char} (hc : isSpace c = true) (cs : List Char) :
    all? (withoutLastFeed (c :: cs)) = all? (withoutLastFeed cs) := by
  by_cases hlast : c = '\n' ∧ cs = []
  · obtain ⟨rfl, rfl⟩ := hlast
    rfl
  · rw [Text.withoutLastFeed_cons hlast, all?_cons_of_isSpace hc]

/-- A line end is a blank, however it is written. -/
theorem next?_plain (cs : List Char) : next? (withoutLastFeed (plainFeeds cs)) = next? cs := by
  cases cs with
  | nil => rfl
  | cons c cs =>
    cases hc : isSpace c with
    | true =>
      rw [next?_cons_of_isSpace hc]
      by_cases hreturn : c = '\x0d' ∧ cs.head? = some '\n'
      · obtain ⟨rest, rfl⟩ := List.head?_eq_some_iff.1 hreturn.2
        rw [hreturn.1, plainFeeds, next?_withoutLastFeed (by decide)]
      · rw [Text.plainFeeds_cons hreturn, next?_withoutLastFeed hc]
    | false =>
      have hne {control : Char} (h : isSpace control = true) : c ≠ control := by
        intro heq
        exact absurd (h.symm.trans (heq ▸ hc)) (by decide)
      rw [Text.plainFeeds_cons fun hreturn => hne (by decide) hreturn.1,
        Text.withoutLastFeed_cons fun hlast => hne (by decide) hlast.1]
      rfl

/-- **The tokens of a text do not depend on how its lines end.** -/
theorem all?_plain {cs : List Char} {tokens : List Token} (h : all? cs = some tokens) :
    all? (withoutLastFeed (plainFeeds cs)) = some tokens := by
  fun_induction all? cs generalizing tokens with
  | case1 => rwa [plainFeeds, withoutLastFeed, all?]
  | case2 c cs hc ih =>
    by_cases hreturn : c = '\x0d' ∧ cs.head? = some '\n'
    · -- The carriage return goes, and the line feed behind it is the one that stays.
      obtain ⟨rest, rfl⟩ := List.head?_eq_some_iff.1 hreturn.2
      rw [hreturn.1]
      exact ih h
    · rw [Text.plainFeeds_cons hreturn, all?_withoutLastFeed hc]
      exact ih h
  | case3 => cases h
  | case4 c cs hc token rest hread _ ih =>
    obtain ⟨more, hmore, rfl⟩ := Option.map_eq_some_iff.1 h
    obtain ⟨used, rfl, hused, hagain⟩ := takes_read? hread
    have hreturn : '\x0d' ∉ c :: used := hused.notMem (by decide)
    have hfeed : '\n' ∉ c :: used := hused.notMem (by decide)
    rw [← List.cons_append, Text.plainFeeds_append hreturn, Text.withoutLastFeed_append hfeed,
      List.cons_append, all?_cons (by simpa using hc), hagain _ (next?_plain rest),
      Option.bind_some, ih hmore, Option.map_some]

end Courier.Json.Token
