import ScriptCheck.Diagnostic.Data
import ScriptCheck.Diagnostic.Line
import ScriptCheck.Report.Format
import ScriptCheck.Text.Blank

/-! What the commands report. -/

namespace ScriptCheck

def stacked (lines : List String) : String :=
  Text.trimmedEnd (String.join (lines.map (· ++ "\n")))

def failureLine (failure : String) : String := "failed: " ++ failure

structure LintReport where
  filesChecked : Nat
  diagnostics : List Diagnostic
  failures : List String
deriving DecidableEq, Repr

namespace LintReport

def hasErrors (r : LintReport) : Bool :=
  !r.failures.isEmpty || r.diagnostics.any (·.severity = .error)

def text (r : LintReport) (colors : Bool) : String :=
  stacked (r.diagnostics.map (·.line colors) ++ r.failures.map failureLine)

def toJson (r : LintReport) : Json :=
  .obj [("files_checked", .nat r.filesChecked),
    ("diagnostics", .arr (r.diagnostics.map Diagnostic.toJson)),
    ("failures", .arr (r.failures.map .str))]

end LintReport

instance : Printable LintReport where
  plain r := r.text false
  pretty r colors := r.text colors
  json := LintReport.toJson

/-- What came of formatting some files, or of checking whether they are formatted. There is
one diagnostic for every file that was or would be changed. -/
structure FormatReport where
  check : Bool
  filesChecked : Nat
  diagnostics : List Diagnostic
  failures : List String
deriving DecidableEq, Repr

namespace FormatReport

def hasErrors (r : FormatReport) : Bool :=
  !r.failures.isEmpty || (r.check && !r.diagnostics.isEmpty)

def entry (check colors : Bool) (d : Diagnostic) : String :=
  if check then d.line colors else "formatted: " ++ d.location.file.text

def text (r : FormatReport) (colors : Bool) : String :=
  stacked (r.diagnostics.map (entry r.check colors) ++ r.failures.map failureLine)

def toJson (r : FormatReport) : Json :=
  .obj [("check", .bool r.check), ("files_checked", .nat r.filesChecked),
    ("diagnostics", .arr (r.diagnostics.map Diagnostic.toJson)),
    ("failures", .arr (r.failures.map .str))]

end FormatReport

instance : Printable FormatReport where
  plain r := r.text false
  pretty r colors := r.text colors
  json := FormatReport.toJson

structure ToolEntry where
  name : String
  category : String
  available : Bool
  version : Option String
  executable : String
  resolved : Option String
  website : String
deriving DecidableEq, Repr

namespace ToolEntry

def versionText (t : ToolEntry) : String := t.version.getD "not installed"

def place (t : ToolEntry) : String := t.resolved.getD t.executable

def plainLines (t : ToolEntry) : List String :=
  [t.name ++ " (" ++ t.category ++ ") " ++ (if t.available then "ok" else "missing") ++ " - "
      ++ t.versionText,
    "  executable: " ++ t.place]

def mark (t : ToolEntry) (colors : Bool) : String :=
  if t.available then Style.green.paintIf colors "✓" else Style.red.paintIf colors "✗"

def prettyLines (t : ToolEntry) (colors : Bool) : List String :=
  ["  " ++ t.mark colors ++ " " ++ t.name ++ " (" ++ t.category ++ ") - " ++ t.versionText,
    "    Executable: " ++ t.place,
    "    Website: " ++ t.website]

def toJson (t : ToolEntry) : Json :=
  .obj [("name", .str t.name), ("category", .str t.category), ("available", .bool t.available),
    ("version", Json.orNull .str t.version), ("executable", .str t.executable),
    ("resolved", Json.orNull .str t.resolved), ("website", .str t.website)]

end ToolEntry

structure ToolList where
  tools : List ToolEntry
deriving DecidableEq, Repr

instance : Printable ToolList where
  plain l := stacked (l.tools.flatMap ToolEntry.plainLines)
  pretty l colors := stacked (l.tools.flatMap (·.prettyLines colors))
  json l := .obj [("tools", .arr (l.tools.map ToolEntry.toJson))]

end ScriptCheck
