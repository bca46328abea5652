import ScriptCheck.Proofs.Diagnostic.Data
import ScriptCheck.Proofs.Diagnostic.Sarif
import ScriptCheck.Proofs.Report.Styles

/-! The report of a check in the forms in which it is printed. Each of them has every diagnostic,
and the lines and the JSON object have every failure. -/

namespace ScriptCheck

open Json

/-- What is printed of some lines: a text without the blanks at its end, and nothing if that leaves
none of it. -/
def ShowsLines (lines : List String) (text : String) : Prop :=
  ∃ body, TrimmedFrom body ("\n".intercalate lines) ∧ text = if body = "" then "" else body ++ "\n"

theorem showsLines_stacked (lines : List String) :
    ShowsLines lines (if stacked lines = "" then "" else stacked lines ++ "\n") :=
  ⟨stacked lines, trimmedFrom_stacked lines, rfl⟩

namespace LintReport

variable {made : LintReport}

structure Fits (made : LintReport) : Prop where
  filesChecked : made.filesChecked < limit64
  diagnostics : ∀ d ∈ made.diagnostics, d.location.Fits

/-- An object has all of a report, in order. -/
structure Tells (made : LintReport) (value : Json) : Prop where
  filesChecked : value.get? "files_checked" = some (.nat made.filesChecked)
  diagnostics : ∃ items, value.get? "diagnostics" = some (.arr items) ∧
    List.Forall₂ (fun d item => Diagnostic.decode item = .ok d) made.diagnostics items
  failures : value.get? "failures" = some (.arr (made.failures.map .str))

def lines (made : LintReport) (colors : Bool) : List String :=
  made.diagnostics.map (·.line colors) ++ made.failures.map ("failed: " ++ ·)

/-- What is printed of a report. -/
inductive Shows (made : LintReport) : Bool → OutputFormat → String → Prop
  | sarif {format : OutputFormat} {report : Sarif.Report}
    (hgroups : Sarif.Groups made.diagnostics report.runs) :
    made.Shows true format (report.text ++ "\n")
  | json {line : String}
    (hline : made.Fits → ∃ value, parse? line = some value ∧ made.Tells value) :
    made.Shows false .json (line ++ "\n")
  | compact {text : String} (hlines : ShowsLines (made.lines false) text) :
    made.Shows false .compact text
  | pretty {colors : Bool} {text : String} (hlines : ShowsLines (made.lines colors) text) :
    made.Shows false (.pretty colors) text

theorem exact_toJson (hfits : made.Fits) : made.toJson.Exact := by
  refine .obj fun e he => ?_
  simp only [List.mem_cons, List.not_mem_nil, or_false] at he
  rcases he with rfl | rfl | rfl
  · exact exact_nat hfits.filesChecked
  · refine .arr (List.forall_mem_map.mpr fun d hd => ?_)
    exact Diagnostic.exact_toJson (hfits.diagnostics d hd)
  · exact .arr (List.forall_mem_map.mpr fun failure _ => .str failure)

theorem exists_parse?_toJson (hfits : made.Fits) :
    ∃ value, parse? made.toJson.compress = some value ∧ made.Tells value := by
  obtain ⟨sorted, hobject, -, hlookup⟩ := Json.exists_arranged
    [("files_checked", .nat made.filesChecked),
      ("diagnostics", .arr (made.diagnostics.map Diagnostic.toJson)),
      ("failures", .arr (made.failures.map .str))] (by simp)
  have harranged : made.toJson.arranged = .obj sorted := hobject
  refine ⟨.obj sorted, ?_, hlookup "files_checked", ⟨_, hlookup "diagnostics", ?_⟩, ?_⟩
  · rw [parse?_compress (exact_toJson hfits), harranged]
  · rw [arrangedItems_eq_map, List.forall₂_map_right_iff, List.forall₂_map_right_iff,
      List.forall₂_same]
    intro d hd
    obtain ⟨_, _, hd', hspells, -⟩ := d.exists_arranged
    rw [hd']
    exact Diagnostic.decode_of_spells (hfits.diagnostics d hd) hspells
  · have hstrings : arrangedItems (made.failures.map .str) = made.failures.map .str := by
      rw [arrangedItems_eq_map, List.map_map]
      rfl
    exact (hlookup "failures").trans (congrArg (some ∘ Json.arr) hstrings)

theorem shows_sarif (made : LintReport) (format : OutputFormat) :
    made.Shows true format ((Sarif.Report.of made.diagnostics).text ++ "\n") :=
  .sarif (Sarif.sorts_of made.diagnostics).groups

theorem shows_printed (made : LintReport) (format : OutputFormat) :
    made.Shows false format (printed made format) := by
  cases format with
  | compact => exact .compact (showsLines_stacked _)
  | pretty colors => exact .pretty (showsLines_stacked _)
  | json =>
    have hne : made.toJson.compress ≠ "" := compress_obj_ne _
    have hrendered : rendered made .json = made.toJson.compress := rfl
    unfold printed
    rw [hrendered, if_neg hne]
    exact .json exists_parse?_toJson

end LintReport
end ScriptCheck
