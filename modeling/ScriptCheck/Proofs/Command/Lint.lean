import Mathlib.Data.List.Forall2
import ScriptCheck.Command.Lint
import ScriptCheck.Proofs.Command.Basic
import ScriptCheck.Proofs.Host.Offering
import ScriptCheck.Proofs.Report.Forms
import ScriptCheck.Proofs.Tool.Linter

/-! Checking scripts. The command succeeds only if the checker is there and lets every script
pass, and its report has something to say of every other script and nothing else. -/

namespace ScriptCheck.Command

variable {t h : Host}

def lintText (sarif : Bool) (format : OutputFormat) (made : LintReport) : String :=
  if sarif then (Sarif.Report.of made.diagnostics).text ++ "\n" else printed made format

/-- Each file has a result of its own, and a report has what the results say. -/
structure Accounted (passes : Path → Prop) (files : List Path) (results : List ToolResult)
    (made : LintReport) : Prop where
  each : List.Forall₂ (fun file => Accounts (passes file) file) files results
  filesChecked : made.filesChecked = files.length
  diagnostics : made.diagnostics = results.flatMap ToolResult.diagnostics
  failures : made.failures = results.filterMap ToolResult.error

/-- What checking some files with a toolchain comes to: an exit code and a machine. -/
structure Checked (chain : Toolchain) (files : List Path) (sarif : Bool) (format : OutputFormat)
    (h : Host) (code : Nat) (g : Host) : Prop where
  success : code = 0 ↔ (h.resolve? chain.fish).isSome = true ∧
    ∀ file ∈ files, Linter.Passes chain.fish chain.timeoutMs ⟨"."⟩ h file
  failure : code ≠ 0 → code = 1
  missing : (h.resolve? chain.fish).isSome = false → h.Alike g
  accounted : (h.resolve? chain.fish).isSome = true → ∃ made text,
    Accounted (Linter.Passes chain.fish chain.timeoutMs ⟨"."⟩ h) files
      (((Registry.ofToolchain chain).perFile .run .linter ⟨"."⟩ files).run h).1 made ∧
    made.Shows sarif format text ∧ (h.printing text).Alike g

theorem shows_lintText (sarif : Bool) (format : OutputFormat) (made : LintReport) :
    made.Shows sarif format (lintText sarif format made) := by
  cases sarif with
  | true => exact made.shows_sarif format
  | false => exact made.shows_printed format

theorem accounted_lintReport (chain : Toolchain) (files : List Path) (h : Host) :
    let results := files.map (Linter.shareOf chain.fish chain.timeoutMs ⟨"."⟩ h)
    Accounted (Linter.Passes chain.fish chain.timeoutMs ⟨"."⟩ h) files
      (((Registry.ofToolchain chain).perFile .run .linter ⟨"."⟩ files).run h).1
      (lintReport files results) := by
  intro results
  rw [(Linter.ends_perFile chain ⟨"."⟩ files (.refl h)).run_fst]
  refine ⟨?_, rfl, rfl, rfl⟩
  rw [List.forall₂_map_right_iff, List.forall₂_same]
  exact fun file _ => Linter.accounts_shareOf ..

theorem hasErrors_lintReport (files : List Path) (shares : List ToolResult) :
    (lintReport files shares).hasErrors = false ↔
      ∀ share ∈ shares, share.error = none ∧ ∀ d ∈ share.diagnostics, d.severity ≠ .error := by
  unfold lintReport LintReport.hasErrors collectDiagnostics collectFailures
  rw [Bool.or_eq_false_iff, Bool.not_eq_false', List.isEmpty_iff, List.filterMap_eq_nil_iff,
    List.any_eq_false]
  simp only [List.mem_flatMap, decide_eq_true_eq]
  constructor
  · rintro ⟨herror, hseverity⟩ share hshare
    exact ⟨herror share hshare, fun d hd => hseverity d ⟨share, hshare, hd⟩⟩
  · intro hall
    refine ⟨fun share hshare => (hall share hshare).1, ?_⟩
    rintro d ⟨share, hshare, hd⟩
    exact (hall share hshare).2 d hd

theorem ends_summarize (files : List Path) (results : List ToolResult) (ht : t.Alike h) :
    Ends (summarize files results) h () t := by
  unfold summarize
  simp only
  split
  · exact (ends_complain _ ht).bind fun g hg => ends_complain _ hg
  · exact ends_pure () ht

theorem ends_checkScripts_missing (paths : List Path) (sarif : Bool) (root : Option Path)
    (format : OutputFormat)
    (hmissing : (h.resolve? (toolchainOf (rootOf root) h).fish).isSome = false) :
    Ends (checkScripts paths sarif root format) h 1 h := by
  have hlinter : (Linter.tool (toolchainOf (rootOf root) h).fish
      (toolchainOf (rootOf root) h).timeoutMs).isAvailable h = false := hmissing
  refine (ends_toolsOf (rootOf root) (.refl h)).bind fun g hg => ?_
  exact ends_withTool_missing hlinter _ _ hg

theorem ends_checkScripts (paths : List Path) (sarif : Bool) (root : Option Path)
    (format : OutputFormat)
    (havailable : (h.resolve? (toolchainOf (rootOf root) h).fish).isSome = true) :
    let chain := toolchainOf (rootOf root) h
    let files := Scripts.find h (targets paths (rootOf root))
    let made := lintReport files (files.map (Linter.shareOf chain.fish chain.timeoutMs ⟨"."⟩ h))
    Ends (checkScripts paths sarif root format) h (exitCode made.hasErrors)
      (h.printing (lintText sarif format made)) := by
  intro chain files made
  have hlinter : (Linter.tool chain.fish chain.timeoutMs).isAvailable h = true := havailable
  refine (ends_toolsOf (rootOf root) (.refl h)).bind fun g hg => ?_
  refine ends_withTool hlinter hg fun k hk => ?_
  refine (ends_scripts paths (rootOf root) _ hk).bind fun m hm => ?_
  refine (Linter.ends_perFile chain ⟨"."⟩ files hm).bind fun n hn => ?_
  cases sarif with
  | true => exact (ends_printLine _ hn).bind fun k hk => ends_pure _ hk
  | false =>
    refine (ends_report made format hn).bind fun k hk => ?_
    cases format.isJson with
    | true => exact ends_pure _ hk
    | false => exact (ends_summarize files _ hk).bind fun m hm => ends_pure _ hm

/-- A check succeeds or fails as it should, and passes over no script. -/
theorem checked_checkScripts (paths : List Path) (sarif : Bool) (root : Option Path)
    (format : OutputFormat) (h : Host) :
    Checked (toolchainOf (rootOf root) h) (Scripts.find h (targets paths (rootOf root))) sarif
      format h ((checkScripts paths sarif root format).run h).1
      ((checkScripts paths sarif root format).run h).2 := by
  cases havailable : (h.resolve? (toolchainOf (rootOf root) h).fish).isSome with
  | false =>
    obtain ⟨g, hrun, hg⟩ := ends_checkScripts_missing paths sarif root format havailable
    rw [hrun]
    refine ⟨?_, fun _ => rfl, fun _ => hg, fun htrue => ?_⟩
    · rw [havailable]
      exact iff_of_false Nat.one_ne_zero fun hall => Bool.false_ne_true hall.1
    · rw [havailable] at htrue
      cases htrue
  | true =>
    obtain ⟨g, hrun, hg⟩ := ends_checkScripts paths sarif root format havailable
    rw [hrun]
    refine ⟨?_, fun hcode => ?_, fun hfalse => ?_,
      fun _ => ⟨_, _, accounted_lintReport .., shows_lintText .., hg⟩⟩
    · rw [exitCode_eq_zero_iff, hasErrors_lintReport, List.forall_mem_map, havailable]
      simp only [(Linter.accounts_shareOf ..).harmless_iff, true_and]
    · cases hfailed : (lintReport ..).hasErrors with
      | true => rfl
      | false => exact absurd ((exitCode_eq_zero_iff _).mpr hfailed) hcode
    · rw [havailable] at hfalse
      cases hfalse

def judging : Program := fun call => {
  readsInput := true, delayMs := 0, stdout := .empty
  stderr := if call.arguments = ["-n", "lost.fish"] then .empty
    else "bad.fish (line 2): Missing end\n".toUTF8
  exit := if call.arguments = ["-n", "bad.fish"] then .code 127
    else if call.arguments = ["-n", "lost.fish"] then .signal 9 else .code 0 }

def equipped (path : String) : Host :=
  { Host.offering [] with
    tree := .dir [("home", .dir [("bin", .dir [("fish", .program judging 0o755)])]),
      ("bad.fish", .file .empty 0o644), ("good.fish", .file .empty 0o644),
      ("lost.fish", .file .empty 0o644)]
    environment := [("PATH", path), ("HOME", "/home")] }

/-- A broken script, a sound one and one that is not known of, in every form, and a script with a
checker that is found in the home directory but cannot be started by its name. -/
theorem checked_checkScripts_judging :
    let files : List Path := [⟨"bad.fish"⟩, ⟨"good.fish"⟩, ⟨"lost.fish"⟩]
    let ran (path : String) (files : List Path) (sarif : Bool) (format : OutputFormat) :=
      let made := (checkScripts files sarif none format).run (equipped path)
      (made.1, made.2.console.output)
    let judge := "/home/bin"
    let stuck := "~/bin"
    (∀ sarif format, (ran judge files sarif format).1 = 1 ∧ ∃ made : LintReport,
      made.diagnostics =
        [⟨"fish", "syntax-error", "Missing end", .error, ⟨⟨"bad.fish"⟩, 2, none, none⟩⟩] ∧
      made.failures = ["lost.fish: unexpected output from fish (exit signal): "] ∧
      made.Shows sarif format (ran judge files sarif format).2) ∧
    (ran judge files false .compact).2 =
      "bad.fish:2: error [syntax-error] Missing end\n" ++
        "failed: lost.fish: unexpected output from fish (exit signal):\n" ∧
    (ran judge files false .json).2 =
      "\x7b\"files_checked\":3,\"diagnostics\":[\x7b\"tool\":\"fish\"," ++
        "\"rule_id\":\"syntax-error\",\"message\":\"Missing end\",\"severity\":\"error\"," ++
        "\"location\":\x7b\"file\":\"bad.fish\",\"line\":2\x7d\x7d]," ++
        "\"failures\":[\"lost.fish: unexpected output from fish (exit signal): \"]\x7d\n" ∧
    ran judge [⟨"good.fish"⟩] false .compact = (0, "") ∧
    ran stuck [⟨"good.fish"⟩] false (.pretty true) =
      (1, "failed: good.fish: tool not found: fish\n") ∧
    ran stuck [⟨"good.fish"⟩] true .compact =
      (1, "\x7b\n  \"$schema\": \"https://json.schemastore.org/sarif-2.1.0.json\",\n" ++
        "  \"version\": \"2.1.0\",\n  \"runs\": []\n\x7d\n") := by
  intro files ran judge stuck
  let chain : Toolchain := ⟨⟨"fish"⟩, ⟨"fish_indent"⟩, some 10000⟩
  have hchain : toolchainOf (rootOf none) (equipped judge) = chain := by decide +kernel
  have hfind : Scripts.find (equipped judge) (targets files (rootOf none)) = files := by
    decide +kernel
  have havailable : ((equipped judge).resolve? chain.fish).isSome = true := by decide +kernel
  have hresults : (((Registry.ofToolchain chain).perFile .run .linter ⟨"."⟩ files).run
      (equipped judge)).1 =
        [.success "fish" [⟨"fish", "syntax-error", "Missing end", .error,
            ⟨⟨"bad.fish"⟩, 2, none, none⟩⟩],
          .success "fish" [],
          .failure "fish" "lost.fish: unexpected output from fish (exit signal): "] := by
    decide +kernel
  refine ⟨fun sarif format => ?_, by decide +kernel⟩
  have hchecked := checked_checkScripts files sarif none format (equipped judge)
  rw [hchain, hfind] at hchecked
  obtain ⟨made, text, haccounted, hshows, hprinted⟩ := hchecked.accounted havailable
  rw [hresults] at haccounted
  have hcode : (ran judge files sarif format).1 ≠ 0 := by
    intro hzero
    have hpasses := (hchecked.success.mp hzero).2 ⟨"lost.fish"⟩ (by simp [files])
    obtain ⟨-, heach⟩ := List.forall₂_cons.mp haccounted.each
    obtain ⟨-, heach⟩ := List.forall₂_cons.mp heach
    obtain ⟨hlost, -⟩ := List.forall₂_cons.mp heach
    cases (hlost.harmless_iff.mpr hpasses).1
  have houtput : (ran judge files sarif format).2 = text :=
    hprinted.output_eq.trans String.empty_append
  rw [houtput]
  exact ⟨hchecked.failure hcode, made, haccounted.diagnostics, haccounted.failures, hshows⟩

end ScriptCheck.Command
