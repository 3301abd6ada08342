import Courier.Proofs.Command.Step

/-! A method and its flag, glued together or apart.

A method that is glued to its flag is cut off before the machine reads the words; a flag that stands
alone gets an empty word at the same time. The machine passes over empty words wherever they are
(`run_filter`), so the two spellings say the same at any place of any command, whatever word the
method is (`run_glued`). -/

namespace Courier.Command

theorem unglue_glued (method : String) : unglue ["-X" ++ method] = ["-X", method] := by
  have hchars : ("-X" ++ method).toList = '-' :: 'X' :: method.toList := String.toList_append ..
  rw [unglue, List.flatMap_singleton, hchars]
  show ["-X", String.ofList method.toList] = ["-X", method]
  rw [String.ofList_toList]

/-- The flag is left with an empty method, and the method with itself. -/
theorem unglue_apart {method : String} (h : ¬"-X".toList <+: method.toList) :
    unglue ["-X", method] = ["-X", "", method] := by
  have hflag : unglue ["-X"] = ["-X", ""] := rfl
  rw [unglue_cons, hflag, unglue_eq_self (List.forall_mem_singleton.2 h)]
  rfl

/-- **A method may be glued to its flag or stand behind it.** The machine ends up waiting for the
same, with the same draft, whatever it waited for in front of the flag and whatever the method is: it
may be empty, a URL or another flag, as long as it is no glued method itself. -/
theorem run_glued {method : String} (h : ¬"-X".toList <+: method.toList) (front back : List String)
    (pending : Pending) (d : Draft) :
    run pending d (unglue (front ++ ["-X" ++ method] ++ back)) =
      run pending d (unglue (front ++ ["-X", method] ++ back)) := by
  have hwords : (unglue ["-X" ++ method]).filter (· ≠ "") =
      (unglue ["-X", method]).filter (· ≠ "") := by
    rw [unglue_glued, unglue_apart h]
    rfl
  simp only [unglue_append, run_append]
  rw [← run_filter _ _ (unglue ["-X" ++ method]), hwords, run_filter]

/-- While a header is waited for, and with a flag for the method. -/
theorem run_glued_flag :
    ¬"-X".toList <+: "-d".toList ∧
      run .header {} (unglue (["-b"] ++ ["-X" ++ "-d"] ++ ["a=1", "-X"])) =
        run .header {} (unglue (["-b"] ++ ["-X", "-d"] ++ ["a=1", "-X"])) := by
  have hmethod : ¬"-X".toList <+: "-d".toList := by decide
  exact ⟨hmethod, run_glued hmethod ["-b"] ["a=1", "-X"] .header {}⟩

/-- A glued method that is cut once is not cut again, but one that stands alone is. -/
example : unglue ["-X" ++ "-XPUT"] = ["-X", "-XPUT"] ∧
    unglue ["-X", "-XPUT"] = ["-X", "", "-X", "PUT"] := by
  decide

end Courier.Command
