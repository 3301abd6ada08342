import Courier.Proofs.Command.Items
import Courier.Proofs.Command.Layout

/-! Words that no flag waits for.

A flag waits for the first word behind it that is not empty, and the word behind that one is passed
over if it means nothing by itself (`run_stray`). So a command may have such words behind its
options (`parse_stray`). An empty word does not count as a value, not even in quotes: there the flag
takes the word that was to be passed over (`not_passed_over`). -/

namespace Courier.Command

/-- A flag is waited for, whatever was waited for before it, and also if no method is glued to it. -/
theorem run_unglue_flag (pending : Pending) (d : Draft) {kind : Pending} {flag : String}
    (hflag : flag ∈ spellings kind) : run pending d (unglue [flag]) = (kind, d) := by
  by_cases hglue : flag = "-X"
  · subst hglue
    obtain rfl : Pending.method = kind := Option.some.inj (mem_spellings_iff.1 hflag)
    rfl
  · have hall : ∀ kind, ∀ flag ∈ spellings kind, flag ≠ "-X" → ¬"-X".toList <+: flag.toList := by
      intro kind
      cases kind <;> decide
    rw [unglue_eq_self (by simpa using hall kind flag hflag hglue)]
    exact step_flag pending d (isUrl_of_mem_spellings hflag) (mem_spellings_iff.1 hflag)

/-- What the words of a command make depends on the draft that they leave. -/
theorem ofWords_congr {words others : List String}
    (h : run .none {} (unglue words) = run .none {} (unglue others)) :
    ofWords words = ofWords others := by
  rw [ofWords, h, ofWords]

section
variable {kind : Pending} {flag value word : String} (hurl : isUrl value = false)
  (hknown : isFlag value = false) (hword : IsValue word)
include hurl hknown hword

/-- Of two words, the first that is not empty is taken, and the other one passed over. -/
theorem run_pair (pending : Pending) (d : Draft) :
    run pending d [value, word] = run pending d [if value = "" then word else value] := by
  by_cases hempty : value = ""
  · subst hempty
    rfl
  · rw [if_neg hempty, run_cons, run_cons, run_cons, step_value _ _ ⟨hurl, hknown, hempty⟩,
      step_value _ _ hword]
    rfl

variable (hflag : flag ∈ spellings kind) (hvalue : ¬"-X".toList <+: value.toList)
  (hglue : ¬"-X".toList <+: word.toList)
include hflag hvalue hglue

theorem run_stray (pending : Pending) (d : Draft) :
    run pending d (unglue [flag, value, word]) =
      run pending d (unglue [flag, if value = "" then word else value]) := by
  have hpair : unglue [value, word] = [value, word] :=
    unglue_eq_self (List.forall_mem_cons.2 ⟨hvalue, by simpa using hglue⟩)
  have hone : unglue [if value = "" then word else value] = [if value = "" then word else value] := by
    apply unglue_eq_self
    split <;> simpa
  rw [unglue_cons flag [value, word], unglue_cons flag [_], hpair, hone, run_append, run_append,
    run_unglue_flag pending d hflag]
  exact run_pair hurl hknown hword kind d

end

/-- **Words that mean nothing are passed over behind an option**: of the two words behind a flag, the
first that is not empty is its value, and the command says the same without the other one. -/
theorem parse_stray {before after : List String} {kind : Pending} {flag value word : String}
    (hflag : flag ∈ spellings kind) (hurl : isUrl value = false) (hknown : isFlag value = false)
    (hvalue : ¬"-X".toList <+: value.toList) (hword : IsValue word)
    (hglue : ¬"-X".toList <+: word.toList)
    (hfeed : ∀ other ∈ before ++ [flag, value, word] ++ after, '\n' ∉ other.toList)
    (hcaret : ∀ other ∈ before ++ [flag, value, word] ++ after, '^' ∉ other.toList) :
    parse (commandLine (before ++ [flag, value, word] ++ after)) =
      parse (commandLine (before ++ [flag, if value = "" then word else value] ++ after)) := by
  have hsubset : before ++ [flag, if value = "" then word else value] ++ after ⊆
      before ++ [flag, value, word] ++ after := by
    grind
  rw [parse_commandLine (by simp) hfeed hcaret,
    parse_commandLine (by simp) (fun other h => hfeed other (hsubset h))
      (fun other h => hcaret other (hsubset h))]
  apply ofWords_congr
  simp only [← List.cons_append, unglue_append, run_append]
  rw [run_stray hurl hknown hword hflag hvalue hglue]

/-- Behind words of all kinds, one of them a flag that waits for its value. -/
theorem parse_stray_amid :
    parse (commandLine (["-XPUT", "-I", "-u"] ++ ["--data", "a=1", "--location"] ++
        ["http://[::1]/", ""])) =
      parse (commandLine (["-XPUT", "-I", "-u"] ++ ["--data", "a=1"] ++ ["http://[::1]/", ""])) :=
  parse_stray (show "--data" ∈ spellings .data by decide) (by decide) (by decide) (by decide)
    ⟨by decide, by decide, by decide⟩ (by decide) (by decide) (by decide)

/-- An empty word is no value, so what should be passed over behind it is not. -/
theorem not_passed_over :
    ¬∀ (before after : List String) (kind : Pending) (flag value word : String),
      (run .none {} (unglue before)).1 = .none → flag ∈ spellings kind → kind ≠ .method →
      isUrl value = false → isFlag value = false → ¬"-X".toList <+: value.toList →
      IsValue word → ¬"-X".toList <+: word.toList →
      (∀ other ∈ before ++ [flag, value, word] ++ after, '\n' ∉ other.toList ∧ '^' ∉ other.toList) →
      parse (commandLine (before ++ [flag, value, word] ++ after)) =
        parse (commandLine (before ++ [flag, value] ++ after)) := by
  intro h
  have hsame := h [] ["http://[::1]/"] .data "-d" "" "--location" (by decide) (by decide) (by decide)
    (by decide) (by decide) (by decide) ⟨by decide, by decide, by decide⟩ (by decide) (by decide)
  have htaken : parse (commandLine ["-d", "", "--location", "http://[::1]/"]) =
      .ok { method := .post, uri := "http://[::1]/", body := "--location"
            contentType := Http.formType } := by
    decide +kernel
  have hnone : parse (commandLine ["-d", "", "http://[::1]/"]) =
      .ok { method := .get, uri := "http://[::1]/" } := by
    decide +kernel
  rw [List.nil_append, List.nil_append] at hsame
  exact absurd (htaken.symm.trans (hsame.trans hnone)) (by decide)

end Courier.Command
