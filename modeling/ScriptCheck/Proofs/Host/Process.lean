import ScriptCheck.Host.Process
import ScriptCheck.Proofs.Host.Tree

/-! What starts when a program is called. It depends on the layout of the files, the working
directory and the environment, but not on what files hold. -/

namespace ScriptCheck

variable {h g t : Host}

namespace Host

/-- Machines that differ in the contents of files, the console, the time and the log alone. -/
structure SameLayout (h g : Host) : Prop where
  frame : h.tree.SameFrame g.tree
  workDir : g.workDir = h.workDir
  environment : g.environment = h.environment

theorem programAt_eq (h : Host) (from_ : Place) (path : Path) :
    h.programAt from_ path = (h.tree.locate from_ path true).bind fun place =>
      match (h.tree.at? place).map Node.frame with
      | some (.program run mode) =>
        if mode &&& 0o111 = 0 then .error .permissionDenied else .ok (place, run)
      | some (.file _ mode) =>
        .error (if mode &&& 0o111 = 0 then .permissionDenied else .badFormat)
      | some _ => .error .permissionDenied
      | none => .error .notFound := by
  unfold programAt
  cases h.tree.locate from_ path true with
  | error e => rfl
  | ok place =>
    simp only [bind, Except.bind]
    cases h.tree.at? place with
    | none => rfl
    | some node => cases node <;> rfl

theorem startDir_some (h : Host) (path : Path) :
    h.startDir (some path) =
      if path.text.toList.contains '\x00' then .error .nulInCommand
      else (h.locate path).bind fun place =>
        match (h.tree.at? place).map Node.frame with
        | some (.dir _) => .ok place
        | some _ => .error .notDirectory
        | none => .error .notFound := by
  unfold startDir
  by_cases hnul : path.text.toList.contains '\x00'
  · simp only [hnul]
    rfl
  · simp only [hnul]
    cases h.locate path with
    | error e => rfl
    | ok place =>
      simp only [bind, Except.bind]
      cases h.tree.at? place with
      | none => rfl
      | some node => cases node <;> rfl

namespace SameLayout

theorem refl (h : Host) : h.SameLayout h := ⟨.refl _, rfl, rfl⟩

theorem trans (hg : h.SameLayout g) (ht : g.SameLayout t) : h.SameLayout t where
  frame := hg.frame.trans ht.frame
  workDir := ht.workDir.trans hg.workDir
  environment := ht.environment.trans hg.environment

theorem locate_eq (hg : h.SameLayout g) (path : Path) : g.locate path = h.locate path := by
  unfold locate
  rw [hg.frame.locate_eq, hg.workDir]

theorem programAt_eq (hg : h.SameLayout g) (from_ : Place) (path : Path) :
    g.programAt from_ path = h.programAt from_ path := by
  simp only [Host.programAt_eq, hg.frame.locate_eq, hg.frame _]

theorem search_eq (hg : h.SameLayout g) (from_ : Place) (name : String) (denied : Bool)
    (dirs : List Path) : g.search from_ name denied dirs = h.search from_ name denied dirs := by
  induction dirs generalizing denied with
  | nil => rfl
  | cons dir dirs ih =>
    unfold search
    simp only [hg.programAt_eq, ih]

theorem findProgram_eq (hg : h.SameLayout g) (from_ : Place) (program : Path) :
    g.findProgram from_ program = h.findProgram from_ program := by
  have hpath : g.searchPath = h.searchPath := by
    unfold searchPath envVar?
    rw [hg.environment]
  unfold findProgram
  simp only [hg.programAt_eq, hg.search_eq, hpath]

theorem startDir_eq (hg : h.SameLayout g) (workDir : Option Path) :
    g.startDir workDir = h.startDir workDir := by
  cases workDir with
  | none => exact congrArg Except.ok hg.workDir
  | some path => simp only [startDir_some, hg.locate_eq, hg.frame _]

theorem start_eq (hg : h.SameLayout g) (inv : Invocation) : g.start inv = h.start inv := by
  unfold start
  simp only [hg.startDir_eq, hg.findProgram_eq]

end SameLayout
end Host

namespace Invocation

def result (inv : Invocation) :
    Except IoError (Place × Outcome) → Except ToolError ProcessOutput
  | .error .notFound => .error (.notFound inv.program.text)
  | .error e => .error (.io e)
  | .ok (_, outcome) =>
    match inv.expiry? outcome with
    | some limit => .error (.timeout inv.program.text (.ofMillis limit))
    | none => .ok outcome.output

def answer (inv : Invocation) (h : Host) : Except ToolError ProcessOutput :=
  inv.result (h.start inv)

theorem answer_eq (inv : Invocation) (hg : h.SameLayout g) : inv.answer g = inv.answer h :=
  congrArg inv.result (hg.start_eq inv)

theorem expiry?_eq_none_iff {inv : Invocation} {outcome : Outcome} :
    inv.expiry? outcome = none ↔ ∀ limit ∈ inv.timeoutMs, outcome.delayMs < limit := by
  unfold expiry?
  simp [Option.filter_eq_none_iff]

theorem answer_eq_ok_iff {inv : Invocation} {output : ProcessOutput} :
    inv.answer h = .ok output ↔ ∃ place outcome, h.start inv = .ok (place, outcome) ∧
      inv.expiry? outcome = none ∧ outcome.output = output := by
  unfold answer
  constructor
  · intro hresult
    cases hstart : h.start inv with
    | error e =>
      rw [hstart] at hresult
      cases e <;> cases hresult
    | ok started =>
      obtain ⟨place, outcome⟩ := started
      rw [hstart] at hresult
      unfold result at hresult
      cases hexpiry : inv.expiry? outcome with
      | some limit => simp only [hexpiry, reduceCtorEq] at hresult
      | none =>
        simp only [hexpiry, Except.ok.injEq] at hresult
        exact ⟨place, outcome, rfl, hexpiry, hresult⟩
  · rintro ⟨place, outcome, hstart, hexpiry, rfl⟩
    rw [hstart]
    unfold result
    simp only [hexpiry]

end Invocation
end ScriptCheck
