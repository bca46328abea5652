import ScriptCheck.Proofs.Listing.Diagnostics
import ScriptCheck.Proofs.Tool.Registry
import ScriptCheck.Tool.Linter

/-! What the check of a file comes to. A check that exits with zero says nothing, whatever it
writes, and any other check says something: errors that were listed, or a failure that names the
file. -/

namespace ScriptCheck

variable {executable root file : Path} {timeoutMs : Option Nat} {t h : Host}
  {passes : Prop} {share : ToolResult}

/-- What a file adds to a report, by whether its check passes. -/
inductive Accounts (passes : Prop) (file : Path) (share : ToolResult) : Prop
  | sound (hpasses : passes) (diagnostics : share.diagnostics = []) (error : share.error = none)
  | broken (hfails : ¬ passes) (found : share.diagnostics ≠ [])
    (severity : ∀ d ∈ share.diagnostics, d.severity = .error) (error : share.error = none)
  | unknown (hfails : ¬ passes) (reason : String) (diagnostics : share.diagnostics = [])
    (error : share.error = some (file.text ++ ": " ++ reason))

theorem Accounts.harmless_iff (hshare : Accounts passes file share) :
    (share.error = none ∧ ∀ d ∈ share.diagnostics, d.severity ≠ .error) ↔ passes := by
  cases hshare with
  | sound hpasses hdiagnostics herror =>
    refine iff_of_true ⟨herror, fun d hd => ?_⟩ hpasses
    rw [hdiagnostics] at hd
    cases hd
  | broken hfails hfound hseverity herror =>
    obtain ⟨d, hd⟩ := List.exists_mem_of_ne_nil _ hfound
    exact iff_of_false (fun hharmless => hharmless.2 d hd (hseverity d hd)) hfails
  | unknown hfails reason hdiagnostics herror =>
    refine iff_of_false (fun hharmless => ?_) hfails
    rw [herror] at hharmless
    cases hharmless.1

namespace Linter

def invocation (executable : Path) (timeoutMs : Option Nat) (root file : Path) : Invocation where
  program := executable
  arguments := ["-n", file.text]
  workDir := some root
  timeoutMs

/-- The check of a file is started, ends in time, and exits with zero. -/
def Passes (executable : Path) (timeoutMs : Option Nat) (root : Path) (h : Host) (file : Path) :
    Prop :=
  ∃ place outcome, h.start (invocation executable timeoutMs root file) = .ok (place, outcome) ∧
    (∀ limit ∈ timeoutMs, outcome.delayMs < limit) ∧ outcome.exit = .code 0

def shareOf (executable : Path) (timeoutMs : Option Nat) (root : Path) (h : Host) (file : Path) :
    ToolResult :=
  let answer := (invocation executable timeoutMs root file).answer h
  Registry.resultFor (tool executable timeoutMs) file <|
    (answer.bind (resultOf · none)).bind fun result =>
      .ok (.success Listing.toolName result.diagnostics)

theorem ends_checkFile (ht : t.Alike h) :
    Ends (checkFile executable timeoutMs root file).run h
      (((invocation executable timeoutMs root file).answer t).bind (resultOf · none)) t :=
  (ends_exec (invocation executable timeoutMs root file) ht).attempt_bind fun _ _ hg =>
    ends_liftExcept _ hg

theorem ends_checkFiles_singleton (ht : t.Alike h) :
    Ends (checkFiles executable timeoutMs [file] root).run h
      ((((invocation executable timeoutMs root file).answer t).bind (resultOf · none)).bind
        fun result => .ok (.success Listing.toolName result.diagnostics)) t := by
  unfold checkFiles
  rw [mapM_singleton, bind_assoc]
  refine (ends_checkFile ht).attempt_bind fun result g hg => ?_
  rw [pure_bind, List.flatMap_singleton]
  exact ends_pure _ hg

theorem ends_treatOne_run (ht : t.Alike h) :
    Ends (Registry.treatOne .run root (tool executable timeoutMs) file) h
      (shareOf executable timeoutMs root t file) t :=
  Registry.ends_treatOne (ends_checkFiles_singleton ht)

theorem ends_perFile (chain : Toolchain) (root : Path) (files : List Path) (ht : t.Alike h) :
    Ends ((Registry.ofToolchain chain).perFile .run .linter root files) h
      (files.map (shareOf chain.fish chain.timeoutMs root t)) t := by
  have hlinters : (Registry.ofToolchain chain).tools.filter (·.category = .linter) =
      [tool chain.fish chain.timeoutMs] := rfl
  have hone (file : Path) (t h : Host) (ht : t.Alike h) :
      Ends (Registry.treatOne .run root (tool chain.fish chain.timeoutMs) file) h
        (shareOf chain.fish chain.timeoutMs root t file) t := ends_treatOne_run ht
  exact Registry.ends_perFile_same hlinters hone files ht

theorem passes_iff : Passes executable timeoutMs root h file ↔ ∃ output,
    (invocation executable timeoutMs root file).answer h = .ok output ∧
      output.success = true := by
  have hexit (outcome : Outcome) : outcome.output.success = true ↔ outcome.exit = .code 0 := by
    unfold ProcessOutput.success Outcome.output
    cases outcome.exit <;> simp
  constructor
  · rintro ⟨place, outcome, hstart, htime, hzero⟩
    have hexpiry : (invocation executable timeoutMs root file).expiry? outcome = none :=
      Invocation.expiry?_eq_none_iff.mpr htime
    refine ⟨outcome.output, ?_, (hexit outcome).mpr hzero⟩
    exact Invocation.answer_eq_ok_iff.mpr ⟨place, outcome, hstart, hexpiry, rfl⟩
  · rintro ⟨output, hanswer, hsuccess⟩
    obtain ⟨place, outcome, hstart, hexpiry, rfl⟩ := Invocation.answer_eq_ok_iff.mp hanswer
    have htime := Invocation.expiry?_eq_none_iff.mp hexpiry
    exact ⟨place, outcome, hstart, htime, (hexit outcome).mp hsuccess⟩

theorem resultOf_of_success {output : ProcessOutput} (hsuccess : output.success = true)
    (relabel : Option Path) : resultOf output relabel = .ok (.success Listing.toolName []) := by
  unfold resultOf
  rw [if_pos hsuccess]
  rfl

theorem resultOf_of_failure {output : ProcessOutput} (hfailure : output.success = false)
    (relabel : Option Path) : (∃ e, resultOf output relabel = .error e) ∨
      ∃ found, resultOf output relabel = .ok (.success Listing.toolName found) ∧
        found ≠ [] ∧ ∀ d ∈ found, d.severity = .error := by
  unfold resultOf
  rw [if_neg (by rw [hfailure]; decide)]
  cases output.stderrText with
  | error e => exact .inl ⟨e, rfl⟩
  | ok text =>
    simp only [bind, Except.bind]
    cases hfound : Listing.diagnostics text relabel with
    | nil => exact .inl ⟨_, rfl⟩
    | cons d found =>
      refine .inr ⟨d :: found, rfl, List.cons_ne_nil _ _, fun d hd => ?_⟩
      exact Listing.severity_of_mem_diagnosticsOfLines (hfound ▸ hd)

theorem accounts_shareOf (executable : Path) (timeoutMs : Option Nat) (root : Path) (h : Host)
    (file : Path) : Accounts (Passes executable timeoutMs root h file) file
      (shareOf executable timeoutMs root h file) := by
  rw [passes_iff]
  unfold shareOf
  cases (invocation executable timeoutMs root file).answer h with
  | error e => exact .unknown (by rintro ⟨output, hanswer, -⟩; cases hanswer) e.message rfl rfl
  | ok output =>
    simp only [Except.bind]
    cases hsuccess : output.success with
    | true =>
      rw [resultOf_of_success hsuccess]
      exact .sound ⟨output, rfl, hsuccess⟩ rfl rfl
    | false =>
      have hfails : ¬ ∃ other, (.ok output : Except ToolError ProcessOutput) = .ok other ∧
          other.success = true := by
        rintro ⟨other, hother, htrue⟩
        cases hother
        rw [hsuccess] at htrue
        cases htrue
      rcases resultOf_of_failure hsuccess none with ⟨e, herror⟩ | ⟨found, hok, hne, hseverity⟩
      · rw [herror]
        exact .unknown hfails e.message rfl rfl
      · rw [hok]
        exact .broken hfails hne hseverity rfl

end Linter
end ScriptCheck
