import Mathlib.Data.List.Pairwise
import ScriptCheck.Command.Format
import ScriptCheck.Proofs.Host.Offering
import ScriptCheck.Proofs.Tool.Rewriting

/-! Formatting files and checking whether they are formatted. Both report the same files and the
same failures, only formatting writes, and what it has written is found to be formatted if the
formatter leaves its own texts alone. None of the files is a program, so the formatter stays what
it is. -/

namespace ScriptCheck.Command

open Formatter

variable {executable : Path} {timeoutMs : Option Nat} {registry : Registry} {files : List Path}
  {h g : Host} {check : Bool} {severity : Severity} {message : String}

def reach (file : Path) : Path := Path.join ⟨"."⟩ file

def formatReport (executable : Path) (timeoutMs : Option Nat) (check : Bool) (severity : Severity)
    (message : String) (h : Host) (files : List Path) : FormatReport :=
  let result (file : Path) := reported (tool executable timeoutMs) severity message file
    (change? executable timeoutMs ⟨"."⟩ h file)
  { check, filesChecked := files.length, diagnostics := collectDiagnostics (files.map result)
    failures := collectFailures (files.map result) }

def failure? (file : Path) : Except ToolError (Option (String × String)) → Option String
  | .ok _ => none
  | .error e => some (file.text ++ ": " ++ e.message)

def locations (file : Path) : Except ToolError (Option (String × String)) → List Location
  | .ok (some (before, after)) => [{ file, line := Text.firstDifferingLine before after }]
  | _ => []

theorem failures_formatReport :
    (formatReport executable timeoutMs check severity message h files).failures =
      files.filterMap fun file => failure? file (change? executable timeoutMs ⟨"."⟩ h file) := by
  simp only [formatReport, collectFailures, List.filterMap_map]
  refine List.filterMap_congr fun file _ => ?_
  simp only [Function.comp]
  cases change? executable timeoutMs ⟨"."⟩ h file <;> rfl

theorem locations_formatReport :
    (formatReport executable timeoutMs check severity message h files).diagnostics.map
        (·.location) =
      files.flatMap fun file => locations file (change? executable timeoutMs ⟨"."⟩ h file) := by
  simp only [formatReport, collectDiagnostics, List.flatMap_map, List.map_flatMap]
  congr 1
  funext file
  cases change? executable timeoutMs ⟨"."⟩ h file with
  | error e => rfl
  | ok change? => cases change? <;> rfl

theorem mem_diagnostics_formatReport {d : Diagnostic} :
    d ∈ (formatReport executable timeoutMs check severity message h files).diagnostics ↔
      ∃ file ∈ files, ∃ before after,
        change? executable timeoutMs ⟨"."⟩ h file = .ok (some (before, after)) ∧
          d = finding severity message file before after := by
  simp only [formatReport, collectDiagnostics, List.flatMap_map, List.mem_flatMap]
  refine exists_congr fun file => and_congr_right fun _ => ?_
  cases change? executable timeoutMs ⟨"."⟩ h file with
  | error e => exact iff_of_false List.not_mem_nil fun ⟨_, _, hchange, _⟩ => nomatch hchange
  | ok change? =>
    cases change? with
    | none => exact iff_of_false List.not_mem_nil fun ⟨_, _, hchange, _⟩ => nomatch hchange
    | some change =>
      constructor
      · exact fun hd => ⟨change.1, change.2, rfl, List.mem_singleton.mp hd⟩
      · rintro ⟨before, after, hchange, rfl⟩
        cases hchange
        exact List.mem_singleton_self _

theorem mem_failures_formatReport {file : Path} {e : ToolError} (hfile : file ∈ files)
    (hchange : change? executable timeoutMs ⟨"."⟩ h file = .error e) :
    file.text ++ ": " ++ e.message ∈
      (formatReport executable timeoutMs check severity message h files).failures := by
  rw [failures_formatReport, List.mem_filterMap]
  refine ⟨file, hfile, ?_⟩
  rw [hchange]
  rfl

theorem formatReport_of_settled
    (hsettled : ∀ file ∈ files, change? executable timeoutMs ⟨"."⟩ g file =
      (change? executable timeoutMs ⟨"."⟩ h file).map fun _ => none) :
    (formatReport executable timeoutMs check severity message g files).diagnostics = [] ∧
      (formatReport executable timeoutMs check severity message g files).failures =
        (formatReport executable timeoutMs check severity message h files).failures := by
  constructor
  · refine List.eq_nil_iff_forall_not_mem.mpr fun d hd => ?_
    obtain ⟨file, hfile, before, after, hchange, -⟩ := mem_diagnostics_formatReport.mp hd
    rw [hsettled file hfile] at hchange
    cases hsame : change? executable timeoutMs ⟨"."⟩ h file with
    | error e => exact nomatch hsame ▸ hchange
    | ok change? => exact nomatch hsame ▸ hchange
  · rw [failures_formatReport, failures_formatReport]
    refine List.filterMap_congr fun file hfile => ?_
    rw [hsettled file hfile]
    cases change? executable timeoutMs ⟨"."⟩ h file <;> rfl

theorem ends_formatFiles_run
    (hr : registry.tools.filter (·.category = .formatter) = [tool executable timeoutMs])
    (files : List Path) (hg : h.Alike g) :
    Ends (formatFiles registry files true) g
      (formatReport executable timeoutMs true .warning "File is not formatted" h files) h := by
  have hone (file : Path) (t h : Host) (ht : t.Alike h) :
      Ends (Registry.treatOne .run ⟨"."⟩ (tool executable timeoutMs) file) h
        (reported (tool executable timeoutMs) .warning "File is not formatted" file
          (change? executable timeoutMs ⟨"."⟩ t file)) t := ends_treatOne_run ht
  exact (Registry.ends_perFile_same hr hone files hg).bind fun k hk => ends_pure _ hk

theorem ends_formatFiles_check
    (hr : registry.tools.filter (·.category = .formatter) = [tool executable timeoutMs])
    (files : List Path) (h : Host) :
    Ends (formatFiles registry files true) h
      (formatReport executable timeoutMs true .warning "File is not formatted" h files) h :=
  ends_formatFiles_run hr files (.refl h)

theorem run_formatFiles_fix
    (hr : registry.tools.filter (·.category = .formatter) = [tool executable timeoutMs])
    (hapart : files.Pairwise (Apart ⟨"."⟩ h))
    (hordinary : ∀ file ∈ files, h.isOrdinary (reach file) = true) :
    ∃ g, (formatFiles registry files false).run h =
        (formatReport executable timeoutMs false .info "Reformatted file" h files, g) ∧
      Rewritten executable timeoutMs ⟨"."⟩ h files g := by
  have hone (file : Path) (t h : Host) (ht : t.Alike h) :
      Ends (Registry.treatOne .fix ⟨"."⟩ (tool executable timeoutMs) file) h
        (reported (tool executable timeoutMs) .info "Reformatted file" file
          (change? executable timeoutMs ⟨"."⟩ t file))
        (rewritten executable timeoutMs ⟨"."⟩ t file) := ends_treatOne_fix ht
  have hnone : Rewritten executable timeoutMs ⟨"."⟩ h [] h := .refl h
  obtain ⟨hresults, hdone⟩ := hnone.foldl (reported (tool executable timeoutMs) .info
    "Reformatted file") hapart hordinary
  have hall := Registry.ends_perFile hr hone files (.refl h)
  rw [hresults] at hall
  have hend : Ends (formatFiles registry files false) h
      (formatReport executable timeoutMs false .info "Reformatted file" h files)
      (files.foldl (rewritten executable timeoutMs ⟨"."⟩) h) :=
    hall.bind fun g hg => ends_pure _ hg
  obtain ⟨g, hrun, hg⟩ := hend
  exact ⟨g, hrun, hdone.alike hg⟩

/-- What checking some files, fixing them, and checking them again come to. -/
structure Settled (executable : Path) (timeoutMs : Option Nat) (h : Host) (files : List Path)
    (checked fixed again : FormatReport × Host) : Prop where
  spared : checked.2.tree = h.tree
  failures : fixed.1.failures = checked.1.failures
  locations : fixed.1.diagnostics.map (·.location) = checked.1.diagnostics.map (·.location)
  found : ∀ file ∈ files, ∀ before after, h.readText (reach file) = .ok before →
    formed executable timeoutMs h before = .ok after → after ≠ before →
      ∃ d ∈ fixed.1.diagnostics, d.location.file = file
  written : ∀ d ∈ fixed.1.diagnostics, ∃ before after,
    h.readText (reach d.location.file) = .ok before ∧
      formed executable timeoutMs h before = .ok after ∧
      fixed.2.readBytes (reach d.location.file) = .ok after.toUTF8
  untouched : ∀ place,
    (∀ d ∈ fixed.1.diagnostics, h.locate (reach d.location.file) ≠ .ok place) →
      (fixed.2.tree.at? place).map Node.bare = (h.tree.at? place).map Node.bare
  failed : ∀ file ∈ files, (∀ before after, h.readText (reach file) = .ok before →
      formed executable timeoutMs h before ≠ .ok after) →
    (∃ reason, file.text ++ ": " ++ reason ∈ fixed.1.failures) ∧
      fixed.2.readBytes (reach file) = h.readBytes (reach file)
  stable : (∀ source text, formed executable timeoutMs h source = .ok text →
      formed executable timeoutMs h text = .ok text) →
    again.1.diagnostics = [] ∧ again.1.failures = checked.1.failures

/-- Checking and fixing agree on every file, and fixing leaves nothing to check. -/
theorem settled_formatFiles
    (hr : registry.tools.filter (·.category = .formatter) = [tool executable timeoutMs])
    (hordinary : ∀ file ∈ files, h.isOrdinary (reach file) = true)
    (hdistinct : (files.filterMap fun file => h.filePlace? (reach file)).Nodup) :
    Settled executable timeoutMs h files ((formatFiles registry files true).run h)
      ((formatFiles registry files false).run h)
      ((formatFiles registry files true).run ((formatFiles registry files false).run h).2) := by
  have hapart : files.Pairwise (Apart ⟨"."⟩ h) := List.pairwise_filterMap.mp hdistinct
  obtain ⟨c, hchecked, hc⟩ := ends_formatFiles_check hr files h
  obtain ⟨g, hfixed, hdone⟩ := run_formatFiles_fix hr hapart hordinary
  obtain ⟨k, hagain, -⟩ := ends_formatFiles_check hr files g
  rw [hchecked, hfixed, hagain]
  refine ⟨hc.tree_eq, ?_, ?_, ?_, ?_, ?_, ?_, ?_⟩
  · exact failures_formatReport.trans failures_formatReport.symm
  · exact locations_formatReport.trans locations_formatReport.symm
  · intro file hfile before after hread hformed hne
    have hchange := change?_eq_ok_some_iff.mpr ⟨hread, hformed, hne⟩
    refine ⟨finding .info "Reformatted file" file before after, ?_, rfl⟩
    exact mem_diagnostics_formatReport.mpr ⟨file, hfile, before, after, hchange, rfl⟩
  · intro d hd
    obtain ⟨file, hfile, before, after, hchange, rfl⟩ := mem_diagnostics_formatReport.mp hd
    obtain ⟨hread, hformed, -⟩ := change?_eq_ok_some_iff.mp hchange
    exact ⟨before, after, hread, hformed, hdone.written file hfile before after hchange⟩
  · intro place hplace
    refine hdone.kept place fun file hfile change hchange => ?_
    refine hplace (finding .info "Reformatted file" file change.1 change.2) ?_
    exact mem_diagnostics_formatReport.mpr ⟨file, hfile, change.1, change.2, hchange, rfl⟩
  · intro file hfile hfails
    obtain ⟨e, hchange⟩ := change?_eq_error hfails
    refine ⟨⟨e.message, mem_failures_formatReport hfile hchange⟩, ?_⟩
    refine hdone.readBytes_of_unchanged hapart hfile fun change hsome => ?_
    exact nomatch hchange.symm.trans hsome
  · intro hstable
    exact formatReport_of_settled fun file hfile => hdone.change?_settled hapart hfile hstable

def oneScript : Program := fun call => {
  readsInput := true, delayMs := 0, stdout := "echo hi\n".toUTF8, stderr := .empty
  exit := .code (if Text.decode? call.input = some "end\n" then 1 else 0) }

def mixed : Host :=
  { Host.offering [] with
    tree := .dir [("bin", .dir [("fish_indent", .program oneScript 0o755)]),
      ("a.fish", .file "echo  hi\n".toUTF8 0o644), ("b.fish", .file "echo hi\n".toUTF8 0o644),
      ("c.fish", .file ⟨#[0xff]⟩ 0o644), ("d.fish", .file "end\n".toUTF8 0o644)] }

theorem eq_of_formed_mixed {source text : String}
    (hformed : formed ⟨"fish_indent"⟩ none mixed source = .ok text) : text = "echo hi\n" := by
  have hdir : mixed.startDir none = .ok [] := rfl
  have hfind : mixed.findProgram [] ⟨"fish_indent"⟩ = .ok (["bin", "fish_indent"], oneScript) := rfl
  have hstart : mixed.start (invocation ⟨"fish_indent"⟩ none source) =
      .ok (["bin", "fish_indent"], oneScript ⟨[], [], source.toUTF8⟩) := by
    unfold Host.start invocation
    rw [hdir]
    simp only [bind, Except.bind]
    rw [hfind]
    rfl
  unfold formed Invocation.answer at hformed
  simp only [hstart, oneScript] at hformed
  split at hformed
  · cases hformed
  · cases hformed
    rfl

theorem settled_formatFiles_mixed :
    let registry := Registry.ofToolchain ⟨⟨"fish"⟩, ⟨"fish_indent"⟩, none⟩
    let files : List Path := [⟨"a.fish"⟩, ⟨"b.fish"⟩, ⟨"c.fish"⟩, ⟨"d.fish"⟩, ⟨"e.fish"⟩]
    let fixed := (formatFiles registry files false).run mixed
    let again := (formatFiles registry files true).run fixed.2
    Settled ⟨"fish_indent"⟩ none mixed files ((formatFiles registry files true).run mixed) fixed
        again ∧
      fixed.1.diagnostics.map (·.location.file) = [⟨"a.fish"⟩] ∧ fixed.1.failures.length = 3 ∧
      again.1.diagnostics = [] := by
  intro registry files fixed again
  have hsettled : Settled ⟨"fish_indent"⟩ none mixed files
      ((formatFiles registry files true).run mixed) fixed again :=
    settled_formatFiles rfl (by decide +kernel) (by decide +kernel)
  have hone : formed ⟨"fish_indent"⟩ none mixed "echo hi\n" = .ok "echo hi\n" := rfl
  refine ⟨hsettled, by decide +kernel, by decide +kernel, (hsettled.stable ?_).1⟩
  intro source text hformed
  rw [eq_of_formed_mixed hformed, hone]

end ScriptCheck.Command
