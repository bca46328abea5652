import ScriptCheck.Proofs.Host.Offering
import ScriptCheck.Proofs.Host.Resolution
import ScriptCheck.Proofs.Tool.Linter

/-! Which program a check starts. A script is checked in a directory of its own, but whether there
is a checker is asked in the working directory, so that the two agree only for an executable that
means the same file everywhere. -/

namespace ScriptCheck.Linter

variable {h t : Host} {executable x root file : Path} {timeoutMs : Option Nat}

def textInvocation (executable : Path) (timeoutMs : Option Nat) (source : String)
    (workDir : Option Path) : Invocation where
  program := executable
  arguments := ["-n"]
  input := some source
  workDir
  timeoutMs

theorem ends_checkText (source : String) (ht : t.Alike h) :
    Ends (checkText executable timeoutMs source file).run h
      (((textInvocation executable timeoutMs source (textDir t file)).answer t).bind
        (resultOf · (some file))) t := by
  have hdir : textDir h file = textDir t file := by
    obtain ⟨_, _, _, rfl⟩ := ht
    rfl
  refine (ends_getThe ht).ok_bind fun g hg => ?_
  rw [hdir]
  exact (ends_exec _ hg).attempt_bind fun _ _ hk => ends_liftExcept _ hk

theorem exists_startDir_textDir (h : Host) (file : Path) :
    ∃ dir, h.startDir (textDir h file) = .ok dir := by
  cases hdir : textDir h file with
  | none => exact ⟨h.workDir, rfl⟩
  | some dir => exact Host.exists_startDir (Option.filter_eq_some_iff.mp hdir).2

def textVerdict (file : Path) (answer : Except ToolError ProcessOutput) :
    Except ToolError ToolResult :=
  answer.bind (resultOf · (some file))

theorem answer_checkText (source : String) (file : Path) :
    ((checkText executable timeoutMs source file).run.run h).1 = textVerdict file
      ((textInvocation executable timeoutMs source (textDir h file)).answer h) := by
  obtain ⟨g, hrun, -⟩ := ends_checkText source (.refl h)
  exact congrArg Prod.fst hrun

def fileVerdict (answer : Except ToolError ProcessOutput) : Except ToolError ToolResult :=
  (answer.bind (resultOf · none)).bind fun result =>
    .ok (.success Listing.toolName result.diagnostics)

theorem answer_checkFiles (root file : Path) :
    ((checkFiles executable timeoutMs [file] root).run.run h).1 =
      fileVerdict ((invocation executable timeoutMs root file).answer h) := by
  obtain ⟨g, hrun, -⟩ := ends_checkFiles_singleton (.refl h)
  exact congrArg Prod.fst hrun

theorem resultOf_ne_notFound (output : ProcessOutput) (relabel : Option Path) (name : String) :
    resultOf output relabel ≠ .error (.notFound name) := by
  unfold resultOf
  split
  · nofun
  have htext : output.stderrText ≠ .error (.notFound name) := by
    unfold ProcessOutput.stderrText ProcessOutput.decoded
    split <;> nofun
  cases hstderr : output.stderrText with
  | error e =>
    rw [hstderr] at htext
    intro heq
    cases heq
    exact htext rfl
  | ok text =>
    simp only [bind, Except.bind]
    split <;> nofun

theorem result_ne_notFound (inv : Invocation) {started : Except IoError (Place × Outcome)}
    (hstarted : started ≠ .error .notFound) (relabel : Option Path) (name : String) :
    (inv.result started).bind (resultOf · relabel) ≠ .error (.notFound name) := by
  have hresult : inv.result started ≠ .error (.notFound name) := by
    cases started with
    | error e =>
      cases e with
      | notFound => exact absurd rfl hstarted
      | _ => nofun
    | ok started =>
      unfold Invocation.result
      simp only
      split <;> nofun
  cases hanswer : inv.result started with
  | error e =>
    rw [hanswer] at hresult
    intro heq
    cases heq
    exact hresult rfl
  | ok output => exact resultOf_ne_notFound output relabel name

theorem textVerdict_ne_notFound {inv : Invocation}
    {started : Except IoError (Place × Outcome)} (hstarted : started ≠ .error .notFound)
    (file : Path) (name : String) :
    textVerdict file (inv.result started) ≠ .error (.notFound name) :=
  result_ne_notFound inv hstarted (some file) name

theorem fileVerdict_ne_notFound {inv : Invocation}
    {started : Except IoError (Place × Outcome)} (hstarted : started ≠ .error .notFound)
    (name : String) : fileVerdict (inv.result started) ≠ .error (.notFound name) := by
  have hfound := result_ne_notFound inv hstarted none name
  unfold fileVerdict
  cases hresult : (inv.result started).bind (resultOf · none) with
  | error e =>
    rw [hresult] at hfound
    intro heq
    cases heq
    exact hfound rfl
  | ok result => nofun

structure Starts (x : Path) (h : Host) (inv : Invocation) (dir : Place)
    (check : Attempt ToolResult)
    (verdict : Except ToolError ProcessOutput → Except ToolError ToolResult) : Prop where
  start : h.start inv = h.startedAt x (inv.call dir)
  answer : (check.run.run h).1 = verdict (inv.result (h.startedAt x (inv.call dir)))
  found : ∀ name, (check.run.run h).1 ≠ .error (.notFound name)

theorem starts_of_resolve? {inv : Invocation} {dir : Place} {check : Attempt ToolResult}
    {verdict : Except ToolError ProcessOutput → Except ToolError ToolResult}
    (hpath : ∀ dir ∈ h.searchPath, dir.isAbsolute = true)
    (hx : h.resolve? inv.program = some x) (hdir : h.startDir inv.workDir = .ok dir)
    (hmeans : h.Means inv.program dir) (hplain : ∀ a ∈ inv.arguments, '\x00' ∉ a.toList)
    (hanswer : (check.run.run h).1 = verdict (inv.answer h))
    (hverdict : ∀ started name, started ≠ .error .notFound →
      verdict (inv.result started) ≠ .error (.notFound name)) :
    Starts x h inv dir check verdict := by
  have hstart := Host.start_eq_startedAt hpath hx hdir hmeans hplain
  have hthere : h.startedAt x (inv.call dir) ≠ .error .notFound :=
    Host.startedAt_ne_notFound (Host.isRunnable_of_resolve? hx) _
  have hresult : (check.run.run h).1 = verdict (inv.result (h.startedAt x (inv.call dir))) := by
    rw [hanswer, ← hstart]
    rfl
  refine ⟨hstart, hresult, fun name => ?_⟩
  rw [hresult]
  exact hverdict _ name hthere

/-- Checks of texts and of files start the program in a file, whatever directory they run in, as
long as the executable means the same there. -/
structure StartsFound (executable : Path) (timeoutMs : Option Nat) (x : Path) (h : Host) :
    Prop where
  text : ∀ source file, ∃ dir, h.startDir (textDir h file) = .ok dir ∧
    (h.Means executable dir →
      Starts x h (textInvocation executable timeoutMs source (textDir h file)) dir
        (checkText executable timeoutMs source file) (textVerdict file))
  file : ∀ root file, h.isDir root = true → '\x00' ∉ file.text.toList →
    ∃ dir, h.startDir (some root) = .ok dir ∧
      (h.Means executable dir →
        Starts x h (invocation executable timeoutMs root file) dir
          (checkFiles executable timeoutMs [file] root) fileVerdict)

/-- A checker that is available is the one that checks start. -/
theorem startsFound_of_resolve? (timeoutMs : Option Nat)
    (hpath : ∀ dir ∈ h.searchPath, dir.isAbsolute = true)
    (hx : h.resolve? executable = some x) : StartsFound executable timeoutMs x h where
  text source file := by
    obtain ⟨dir, hdir⟩ := exists_startDir_textDir h file
    have hplain : ∀ a ∈ ["-n"], '\x00' ∉ a.toList := by decide
    exact ⟨dir, hdir, fun hmeans => starts_of_resolve? hpath hx hdir hmeans hplain
      (answer_checkText source file) fun _ name hthere => textVerdict_ne_notFound hthere file name⟩
  file root file hroot hfile := by
    obtain ⟨dir, hdir⟩ := Host.exists_startDir hroot
    have hplain : ∀ a ∈ ["-n", file.text], '\x00' ∉ a.toList :=
      List.forall_mem_cons.mpr ⟨by decide, List.forall_mem_singleton.mpr hfile⟩
    exact ⟨dir, hdir, fun hmeans => starts_of_resolve? hpath hx hdir hmeans hplain
      (answer_checkFiles root file) fun _ name hthere => fileVerdict_ne_notFound hthere name⟩

theorem startsFound_of_resolve?_second :
    let h : Host := { Host.offering [("fish", .complaining)] with
      environment := [("PATH", "/usr/bin:/bin")] }
    StartsFound ⟨"fish"⟩ none ⟨"/bin/fish"⟩ h ∧
      h.passedOver ⟨"fish"⟩ = [⟨"/usr/bin/fish"⟩] ∧ (∀ dir, h.Means ⟨"fish"⟩ dir) ∧
      StartsFound ⟨"bin/fish"⟩ none ⟨"/bin/fish"⟩ h ∧ h.Means ⟨"bin/fish"⟩ h.workDir := by
  intro h
  have hpath : ∀ dir ∈ h.searchPath, dir.isAbsolute = true := by decide +kernel
  have hname : h.resolve? ⟨"fish"⟩ = some ⟨"/bin/fish"⟩ := by decide +kernel
  have hrelative : h.resolve? ⟨"bin/fish"⟩ = some ⟨"/bin/fish"⟩ := by decide +kernel
  have hpassed : h.passedOver ⟨"fish"⟩ = [⟨"/usr/bin/fish"⟩] := by decide +kernel
  have hmissing : h.locate ⟨"/usr/bin/fish"⟩ = .error .notFound := rfl
  have hfixed : h.IsFixed ⟨"fish"⟩ := by
    refine .inr ⟨⟨by decide, by decide⟩, fun path hmem e he => .inl ?_⟩
    rw [hpassed] at hmem
    rw [List.mem_singleton.mp hmem, hmissing] at he
    cases he
    rfl
  have hstanding : h.Standing := ⟨⟨_, rfl⟩, nofun⟩
  have hplain : Path.IsRelative ⟨"bin/fish"⟩ := ⟨by decide, by decide, by decide, by decide⟩
  exact ⟨startsFound_of_resolve? none hpath hname, hpassed, fun _ => .inl hfixed,
    startsFound_of_resolve? none hpath hrelative, .inr ⟨hplain, hstanding, rfl⟩⟩

/-- A relative path that leads to a checker from the working directory, but not from that of the
script. -/
theorem checkText_relative_notFound :
    let h : Host := .offering [("fish", .complaining)]
    h.resolve? ⟨"bin/fish"⟩ = some ⟨"/bin/fish"⟩ ∧ h.isDir ⟨"/bin"⟩ = true ∧
      (∀ dir ∈ h.searchPath, dir.isAbsolute = true) ∧
      ((checkText ⟨"bin/fish"⟩ none "if\n" ⟨"/bin/a.fish"⟩).run.run h).1 =
        .error (.notFound "bin/fish") :=
  ⟨by decide +kernel, by decide +kernel, by decide +kernel, rfl⟩

end ScriptCheck.Linter
