import ScriptCheck.Diagnostic.Basic
import ScriptCheck.Json.Basic
import ScriptCheck.Text.Lines
import ScriptCheck.Text.Split
import ScriptCheck.Text.Units

/-! Places in a document as editors name them: lines from zero, and characters from zero in
UTF-16 units, both in 32 bits. -/

namespace ScriptCheck.Editor

open Text

structure Position where
  line : UInt32
  character : UInt32
deriving DecidableEq, Repr

structure Range where
  start : Position
  stop : Position
deriving DecidableEq, Repr

def Position.toJson (p : Position) : Json :=
  .obj [("line", .nat p.line.toNat), ("character", .nat p.character.toNat)]

def Range.toJson (r : Range) : Json :=
  .obj [("start", r.start.toJson), ("end", r.stop.toJson)]

def offset (line : List Char) (n : Nat) : UInt32 := .ofNat (unitsOfFirst line n)

def width (line : List Char) : UInt32 := .ofNat (units line)

def fullRange (text : String) : Range :=
  let lines := pieces '\n' text.toList
  { start := ⟨0, 0⟩
    stop := ⟨.ofNat (lines.length - 1), width (lines.getLastD [])⟩ }

def lineIndex (location : Location) (lines : List (List Char)) : Nat :=
  min (location.line - 1) (max lines.length 1 - 1)

/-- Start and end of a location on its line. Without a column it is the whole line, without
an end one character. -/
def extent (location : Location) (line : List Char) : UInt32 × UInt32 :=
  match location.column, location.endColumn with
  | some column, some endColumn => (offset line (column - 1), offset line (endColumn - 1))
  | some column, none => (offset line (column - 1), offset line column)
  | none, _ => (0, width line)

/-- The range of a location in the text it was found in. It never ends before it starts. -/
def rangeOf (location : Location) (text : String) : Range :=
  let lines := splitLines text.toList
  let index := lineIndex location lines
  let (start, stop) := extent location (lines.getD index [])
  { start := ⟨.ofNat index, start⟩, stop := ⟨.ofNat index, max stop start⟩ }

def severityNumber : Severity → Nat
  | .error => 1
  | .warning => 2
  | .info => 3
  | .hint => 4

structure Mark where
  range : Range
  severity : Severity
  rule : String
  source : String
  message : String
deriving DecidableEq, Repr

def Mark.of (d : Diagnostic) (text : String) : Mark where
  range := rangeOf d.location text
  severity := d.severity
  rule := d.rule
  source := d.tool
  message := d.message

def Mark.toJson (m : Mark) : Json :=
  .obj [("range", m.range.toJson), ("severity", .nat (severityNumber m.severity)),
    ("code", .str m.rule), ("source", .str m.source), ("message", .str m.message)]

structure Edit where
  range : Range
  newText : String
deriving DecidableEq, Repr

def Edit.toJson (e : Edit) : Json :=
  .obj [("range", e.range.toJson), ("newText", .str e.newText)]

def wholeDocumentEdits (before after : String) : List Edit :=
  if after = before then [] else [⟨fullRange before, after⟩]

end ScriptCheck.Editor
