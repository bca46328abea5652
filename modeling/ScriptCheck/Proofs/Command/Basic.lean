import ScriptCheck.Command.Basic
import ScriptCheck.Proofs.Settings.Load

/-! How the parts of a command end. A report goes to standard output if that is read, and
everything else that a command says goes to the error output. -/

namespace ScriptCheck

variable {α : Type} {t u h : Host}

def Host.printing (h : Host) (text : String) : Host :=
  match h.console.sink with
  | .opened => { h with console := { h.console with output := h.console.output ++ text } }
  | _ => h

theorem Host.printing_empty (h : Host) : h.printing "" = h := by
  unfold printing
  rw [String.append_empty]
  cases h.console.sink <;> rfl

theorem ends_printLine (text : String) (ht : t.Alike h) :
    Ends (printLine text) h () (t.printing (text ++ "\n")) := by
  have hsink : h.console.sink = t.console.sink := by
    obtain ⟨errors, clockMs, journal, rfl⟩ := ht
    rfl
  refine (ends_get ht).bind fun g hg => ?_
  rw [hsink]
  unfold Host.printing
  cases t.console.sink with
  | opened =>
    obtain ⟨errors, clockMs, journal, rfl⟩ := hg
    exact ⟨_, rfl, errors, clockMs, journal, rfl⟩
  | closed => exact ends_pure () hg
  | full => exact ends_note .warn _ hg

namespace Command

theorem exitCode_eq_zero_iff (failed : Bool) : exitCode failed = 0 ↔ failed = false := by
  cases failed <;> decide

theorem exitCode_eq_one {failed : Bool} (hcode : exitCode failed ≠ 0) : exitCode failed = 1 := by
  cases failed with
  | false => exact absurd rfl hcode
  | true => rfl

def toolchainOf (root : Path) (h : Host) : Toolchain :=
  ((Settings.load root).run h).1.tools.toolchain

theorem toolchainOf_eq (root : Path) (h : Host) : toolchainOf root h =
    ((Settings.files h root).foldl (Settings.withFile h) {}).tools.toolchain := by
  obtain ⟨g, hrun, -⟩ := Settings.ends_load root (.refl h)
  unfold toolchainOf
  rw [hrun]

theorem ends_toolsOf (root : Path) (ht : t.Alike h) :
    Ends (toolsOf root) h (.ofToolchain (toolchainOf root t)) t := by
  rw [toolchainOf_eq]
  exact (Settings.ends_load root ht).bind fun _ hg => ends_pure _ hg

theorem ends_report [Printable α] (made : α) (format : OutputFormat) (ht : t.Alike h) :
    Ends (report made format) h () (t.printing (printed made format)) := by
  unfold report printed
  by_cases hempty : rendered made format = ""
  · simp only [hempty, if_pos, Host.printing_empty]
    exact ends_pure () ht
  · rw [if_neg hempty]
    split
    · exact absurd ‹_› hempty
    · exact ends_printLine _ ht

theorem ends_scripts (paths : List Path) (root : Path) (quiet : Bool) (ht : t.Alike h) :
    Ends (scripts paths root quiet) h (Scripts.find t (targets paths root)) t := by
  refine (ends_get ht).bind fun g hg => ?_
  rw [ht.find_eq]
  simp only
  split
  · exact (ends_complain _ hg).bind fun k hk => ends_pure _ hk
  · exact ends_pure _ hg

theorem ends_withTool {tool : Tool} {kind : String} {go : Tool → Action Nat} {code : Nat}
    (havailable : tool.isAvailable t = true) (ht : t.Alike h)
    (hgo : ∀ g, t.Alike g → Ends (go tool) g code u) :
    Ends (withTool (some tool) kind go) h code u := by
  refine (ends_get ht).bind fun g hg => ?_
  unfold Tool.isAvailable at havailable ⊢
  rw [ht.resolve?_eq, if_pos havailable]
  exact hgo g hg

theorem ends_withTool_missing {tool : Tool} (hmissing : tool.isAvailable t = false)
    (kind : String) (go : Tool → Action Nat) (ht : t.Alike h) :
    Ends (withTool (some tool) kind go) h 1 t := by
  refine (ends_get ht).bind fun g hg => ?_
  unfold Tool.isAvailable at hmissing ⊢
  rw [ht.resolve?_eq, hmissing]
  exact (ends_complain _ hg).bind fun k hk => ends_pure 1 hk

end Command
end ScriptCheck
