import ScriptCheck.Proofs.Command.Format
import ScriptCheck.Proofs.Command.Run

/-! Checking from the command line whether scripts are formatted. For files the exit code says just
that. A text on standard input is formatted and written out whether that is to be checked or not,
so there the exit code only says that the formatter did its work. -/

namespace ScriptCheck

variable {h t g : Host}

def Console.accepts (c : Console) (text : String) : Bool :=
  match c.sink with
  | .full => !text.toList.contains '\n' && decide (text.utf8ByteSize < Console.lineBuffer)
  | _ => true

theorem Host.tree_printing (h : Host) (text : String) : (h.printing text).tree = h.tree := by
  unfold printing
  cases h.console.sink <;> rfl

theorem ends_printRaw (text : String) (ht : t.Alike h) :
    Ends (printRaw text) h (if t.console.accepts text then .ok () else .error .noSpace)
      (t.printing text) := by
  have hsink : h.console.sink = t.console.sink := by
    obtain ⟨_, _, _, rfl⟩ := ht
    rfl
  refine (ends_get ht).bind fun g hg => ?_
  rw [hsink]
  unfold Host.printing Console.accepts
  cases t.console.sink with
  | opened =>
    obtain ⟨errors, clockMs, journal, rfl⟩ := hg
    exact ⟨_, rfl, errors, clockMs, journal, rfl⟩
  | closed => exact ends_pure _ hg
  | full =>
    by_cases hfails : text.toList.contains '\n' ∨ Console.lineBuffer ≤ text.utf8ByteSize
    · have hrefused : (!text.toList.contains '\n' &&
          decide (text.utf8ByteSize < Console.lineBuffer)) = false := by
        rcases hfails with hline | hlong
        · rw [hline]
          rfl
        · rw [decide_eq_false (Nat.not_lt.mpr hlong), Bool.and_false]
      simp only [if_pos hfails, hrefused]
      exact ends_pure _ hg
    · obtain ⟨hline, hshort⟩ := not_or.mp hfails
      have htaken : (!text.toList.contains '\n' &&
          decide (text.utf8ByteSize < Console.lineBuffer)) = true := by
        rw [Bool.eq_false_iff.mpr hline, decide_eq_true (Nat.not_le.mp hshort)]
        rfl
      simp only [if_neg hfails, htaken]
      exact ends_pure _ hg

namespace Command

open Formatter

variable {executable : Path} {timeoutMs : Option Nat} {files paths : List Path}
  {root : Option Path} {format : OutputFormat}

def IsFormatted (executable : Path) (timeoutMs : Option Nat) (h : Host) (file : Path) : Prop :=
  ∃ text, h.readText (reach file) = .ok text ∧ formed executable timeoutMs h text = .ok text

def checkReport (executable : Path) (timeoutMs : Option Nat) (h : Host) (files : List Path) :
    FormatReport :=
  formatReport executable timeoutMs true .warning "File is not formatted" h files

theorem hasErrors_checkReport : (checkReport executable timeoutMs h files).hasErrors = false ↔
    ∀ file ∈ files, IsFormatted executable timeoutMs h file := by
  have hcheck : (checkReport executable timeoutMs h files).check = true := rfl
  unfold FormatReport.hasErrors
  rw [Bool.or_eq_false_iff, hcheck, Bool.true_and, Bool.not_eq_false', Bool.not_eq_false',
    List.isEmpty_iff, List.isEmpty_iff]
  constructor
  · rintro ⟨hfailures, hdiagnostics⟩ file hfile
    refine change?_eq_ok_none_iff.mp ?_
    cases hchange : change? executable timeoutMs ⟨"."⟩ h file with
    | error e =>
      have hmem : file.text ++ ": " ++ e.message ∈
          (checkReport executable timeoutMs h files).failures :=
        mem_failures_formatReport hfile hchange
      rw [hfailures] at hmem
      cases hmem
    | ok change? =>
      cases change? with
      | none => rfl
      | some change =>
        have hmem : finding .warning "File is not formatted" file change.1 change.2 ∈
            (checkReport executable timeoutMs h files).diagnostics :=
          mem_diagnostics_formatReport.mpr ⟨file, hfile, change.1, change.2, hchange, rfl⟩
        rw [hdiagnostics] at hmem
        cases hmem
  · intro hall
    have hnone (file : Path) (hfile : file ∈ files) :
        change? executable timeoutMs ⟨"."⟩ h file = .ok none :=
      change?_eq_ok_none_iff.mpr (hall file hfile)
    constructor
    · refine failures_formatReport.trans (List.filterMap_eq_nil_iff.mpr fun file hfile => ?_)
      rw [hnone file hfile]
      rfl
    · refine List.eq_nil_iff_forall_not_mem.mpr fun d hd => ?_
      obtain ⟨file, hfile, before, after, hchange, -⟩ := mem_diagnostics_formatReport.mp hd
      rw [hnone file hfile] at hchange
      cases hchange

def inputResult (executable : Path) (timeoutMs : Option Nat) (h : Host) : Except ToolError Unit :=
  match Text.decode? h.console.input with
  | none => .error (.io .notText)
  | some source => (formed executable timeoutMs h source).bind fun made =>
    if h.console.accepts made then .ok () else .error (.io .noSpace)

theorem exists_ends_formatInput (executable : Path) (timeoutMs : Option Nat) (t : Host) :
    ∃ u, u.tree = t.tree ∧ ∀ h, t.Alike h →
      Ends (formatInput (tool executable timeoutMs)).run h
        (inputResult executable timeoutMs t) u := by
  have hinput (h : Host) (ht : t.Alike h) : h.console.input = t.console.input := by
    obtain ⟨_, _, _, rfl⟩ := ht
    rfl
  unfold inputResult
  cases hsource : Text.decode? t.console.input with
  | none =>
    refine ⟨t, rfl, fun h ht => (ends_getThe ht).ok_bind fun g hg => ?_⟩
    rw [hinput h ht, hsource]
    exact ends_throw _ hg
  | some source =>
    have hformed (g : Host) (hg : t.Alike g) :
        Ends ((tool executable timeoutMs).formatSource source).run g
          (formed executable timeoutMs t source) t := ends_formatText hg
    cases hmade : formed executable timeoutMs t source with
    | error e =>
      refine ⟨t, rfl, fun h ht => (ends_getThe ht).ok_bind fun g hg => ?_⟩
      rw [hinput h ht, hsource]
      simp only [hmade, Except.bind]
      exact (hmade ▸ hformed g hg).error_bind _
    | ok made =>
      refine ⟨t.printing made, t.tree_printing made, fun h ht => ?_⟩
      refine (ends_getThe ht).ok_bind fun g hg => ?_
      rw [hinput h ht, hsource]
      simp only [hmade, Except.bind]
      refine (hmade ▸ hformed g hg).ok_bind fun k hk => ?_
      have hprinted := ends_printRaw made hk
      cases haccepts : t.console.accepts made with
      | true =>
        rw [haccepts] at hprinted
        exact (ends_lift hprinted).ok_bind fun m hm => ends_pure _ hm
      | false =>
        rw [haccepts] at hprinted
        exact (ends_lift hprinted).ok_bind fun m hm => ends_throw _ hm

theorem inputResult_eq_ok_iff : inputResult executable timeoutMs h = .ok () ↔
    ∃ source made, Text.decode? h.console.input = some source ∧
      formed executable timeoutMs h source = .ok made ∧ h.console.accepts made = true := by
  unfold inputResult
  cases Text.decode? h.console.input with
  | none => simp
  | some source =>
    cases hmade : formed executable timeoutMs h source with
    | error e => simp [Except.bind, hmade]
    | ok made => cases haccepts : h.console.accepts made <;> simp [Except.bind, hmade, haccepts]

theorem ends_formatScripts_missing (paths : List Path) (check : Bool) (format : OutputFormat)
    (hmissing : (t.resolve? (toolchainOf (rootOf root) t).fishIndent).isSome = false)
    (ht : t.Alike h) : Ends (formatScripts paths check root format) h 1 t := by
  have hformatter : (tool (toolchainOf (rootOf root) t).fishIndent
      (toolchainOf (rootOf root) t).timeoutMs).isAvailable t = false := hmissing
  refine (ends_toolsOf (rootOf root) ht).bind fun g hg => ?_
  exact ends_withTool_missing hformatter _ _ hg

theorem ends_formatScripts_check (format : OutputFormat) (hpaths : isInput paths = false)
    (havailable : (t.resolve? (toolchainOf (rootOf root) t).fishIndent).isSome = true)
    (ht : t.Alike h) :
    let chain := toolchainOf (rootOf root) t
    let made := checkReport chain.fishIndent chain.timeoutMs t
      (Scripts.find t (targets paths (rootOf root)))
    Ends (formatScripts paths true root format) h (exitCode made.hasErrors)
      (t.printing (printed made format)) := by
  intro chain made
  have hformatter : (tool chain.fishIndent chain.timeoutMs).isAvailable t = true := havailable
  refine (ends_toolsOf (rootOf root) ht).bind fun g hg => ?_
  refine ends_withTool hformatter hg fun k hk => ?_
  rw [hpaths]
  refine (ends_scripts paths (rootOf root) _ hk).bind fun m hm => ?_
  refine (ends_formatFiles_run rfl _ hm).bind fun n hn => ?_
  exact (ends_report made format hn).bind fun k hk => ends_pure _ hk

theorem exists_ends_formatScripts_input (check : Bool) (format : OutputFormat)
    (hpaths : isInput paths = true)
    (havailable : (t.resolve? (toolchainOf (rootOf root) t).fishIndent).isSome = true) :
    let chain := toolchainOf (rootOf root) t
    ∃ u, u.tree = t.tree ∧ ∀ h, t.Alike h → Ends (formatScripts paths check root format) h
      (exitCode (inputResult chain.fishIndent chain.timeoutMs t).toOption.isNone) u := by
  intro chain
  have hformatter : (tool chain.fishIndent chain.timeoutMs).isAvailable t = true := havailable
  obtain ⟨u, htree, hinput⟩ := exists_ends_formatInput chain.fishIndent chain.timeoutMs t
  refine ⟨u, htree, fun h ht => ?_⟩
  refine (ends_toolsOf (rootOf root) ht).bind fun g hg => ?_
  refine ends_withTool hformatter hg fun k hk => ?_
  rw [hpaths]
  refine (hinput k hk).bind fun m hm => ?_
  cases inputResult chain.fishIndent chain.timeoutMs t with
  | ok done => exact ends_pure 0 hm
  | error e => exact (ends_complain e.message hm).bind fun n hn => ends_pure 1 hn

/-- What checking whether scripts are formatted comes to: an exit code and a machine. -/
structure CheckedFormat (chain : Toolchain) (paths : List Path) (root : Path) (h : Host)
    (code : Nat) (g : Host) : Prop where
  files : isInput paths = false → (code = 0 ↔ (h.resolve? chain.fishIndent).isSome = true ∧
    ∀ file ∈ Scripts.find h (targets paths root),
      IsFormatted chain.fishIndent chain.timeoutMs h file)
  input : isInput paths = true → (code = 0 ↔ (h.resolve? chain.fishIndent).isSome = true ∧
    ∃ source made, Text.decode? h.console.input = some source ∧
      formed chain.fishIndent chain.timeoutMs h source = .ok made ∧
      h.console.accepts made = true)
  failure : code ≠ 0 → code = 1
  spared : g.tree = h.tree

theorem checkedFormat_run {words : List String} {line : CommandLine}
    (hparse : Arguments.parse words = .ok line) (hcommand : line.command = .fmt paths true) :
    CheckedFormat (toolchainOf (rootOf line.root) h) paths (rootOf line.root) h
      ((run words).run h).1 ((run words).run h).2 := by
  have hexecute (format : OutputFormat) : execute line.command line.root format =
      formatScripts paths true line.root format := by
    rw [hcommand]
    rfl
  have hrun {code : Nat} {u : Host} (hends : ∀ g, h.Alike g →
      Ends (formatScripts paths true line.root (formatOf line h)) g code u) :
      Ends (run words) h code u := by
    refine ends_run hparse fun g hg => ?_
    rw [hexecute]
    exact hends g hg
  cases havailable : (h.resolve? (toolchainOf (rootOf line.root) h).fishIndent).isSome with
  | false =>
    obtain ⟨g, hg, halike⟩ := hrun fun k hk =>
      ends_formatScripts_missing paths true (formatOf line h) havailable hk
    rw [hg]
    refine ⟨fun _ => ?_, fun _ => ?_, fun _ => rfl, halike.tree_eq⟩
    · exact iff_of_false Nat.one_ne_zero fun hall => by simp [havailable] at hall
    · exact iff_of_false Nat.one_ne_zero fun hall => by simp [havailable] at hall
  | true =>
    cases hpaths : isInput paths with
    | false =>
      obtain ⟨g, hg, halike⟩ := hrun fun k hk =>
        ends_formatScripts_check (formatOf line h) hpaths havailable hk
      rw [hg]
      refine ⟨fun _ => ?_, fun hinput => by simp [hpaths] at hinput, exitCode_eq_one, ?_⟩
      · rw [exitCode_eq_zero_iff, hasErrors_checkReport, havailable]
        exact ⟨fun hall => ⟨rfl, hall⟩, fun hall => hall.2⟩
      · exact halike.tree_eq.trans (h.tree_printing _)
    | true =>
      obtain ⟨u, htree, hends⟩ :=
        exists_ends_formatScripts_input true (formatOf line h) hpaths havailable
      obtain ⟨g, hg, halike⟩ := hrun hends
      rw [hg]
      refine ⟨fun hfiles => by simp [hpaths] at hfiles, fun _ => ?_, exitCode_eq_one, ?_⟩
      · rw [exitCode_eq_zero_iff, havailable, ← inputResult_eq_ok_iff]
        cases inputResult (toolchainOf (rootOf line.root) h).fishIndent
          (toolchainOf (rootOf line.root) h).timeoutMs h <;> simp [Except.toOption]
      · exact halike.tree_eq.trans htree

theorem checkedFormat_run_mixed :
    let chain := toolchainOf (rootOf none) mixed
    let check (name : String) := (run ["fmt", "--check", name]).run mixed
    CheckedFormat chain [⟨"b.fish"⟩] (rootOf none) mixed (check "b.fish").1 (check "b.fish").2 ∧
      (check "b.fish").1 = 0 ∧
      CheckedFormat chain [⟨"a.fish"⟩] (rootOf none) mixed (check "a.fish").1 (check "a.fish").2 ∧
      (check "a.fish").1 = 1 := by
  intro chain check
  have hfirst : Arguments.parse ["fmt", "--check", "b.fish"] =
      .ok ⟨false, false, false, false, none, .fmt [⟨"b.fish"⟩] true⟩ := rfl
  have hsecond : Arguments.parse ["fmt", "--check", "a.fish"] =
      .ok ⟨false, false, false, false, none, .fmt [⟨"a.fish"⟩] true⟩ := rfl
  have hformatted := checkedFormat_run (h := mixed) hfirst rfl
  have hunformatted := checkedFormat_run (h := mixed) hsecond rfl
  exact ⟨hformatted, by decide +kernel, hunformatted, by decide +kernel⟩

/-- A text on standard input that is not formatted passes for one that is. -/
theorem run_unformatted_input :
    let h : Host := { mixed with console := { input := "echo  hi\n".toUTF8 } }
    ¬ (((run ["fmt", "--check", "-"]).run h).1 = 0 ↔
      (h.resolve? ⟨"fish_indent"⟩).isSome = true ∧ ∃ source,
        Text.decode? h.console.input = some source ∧
          formed ⟨"fish_indent"⟩ (some 10000) h source = .ok source) := by
  intro h hclaim
  have hcode : ((run ["fmt", "--check", "-"]).run h).1 = 0 := by decide +kernel
  obtain ⟨-, source, hsource, hformed⟩ := hclaim.mp hcode
  have hinput : Text.decode? h.console.input = some "echo  hi\n" :=
    Text.decode?_toUTF8 "echo  hi\n"
  rw [hinput, Option.some.injEq] at hsource
  subst hsource
  have hmade : (formed ⟨"fish_indent"⟩ (some 10000) h "echo  hi\n").toOption =
      some "echo hi\n" := by decide +kernel
  rw [hformed] at hmade
  exact absurd hmade (by decide)

end Command
end ScriptCheck
