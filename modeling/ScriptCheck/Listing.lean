import ScriptCheck.Diagnostic.Basic
import ScriptCheck.Text.Blank
import ScriptCheck.Text.Cells
import ScriptCheck.Text.Digit
import ScriptCheck.Text.Lines

/-! The error listing of a syntax check. An error is announced by a header line
`file (line N): message`; the source line and a line of markers under it may follow. -/

namespace ScriptCheck.Listing

open Text

structure Header where
  file : List Char
  digits : List Char
  message : List Char
deriving DecidableEq, Repr

def opening : List Char := " (line ".toList

def closing : List Char := "): ".toList

def afterFile? (s : List Char) : Option (List Char × List Char) :=
  if opening.isPrefixOf s then
    let rest := s.drop opening.length
    let digits := rest.takeWhile isDigit
    let rest := rest.dropWhile isDigit
    if !digits.isEmpty && closing.isPrefixOf rest && closing.length < rest.length then
      some (digits, rest.drop closing.length)
    else none
  else none

/-- The header a line can be read as. Of several readings the one with the longest file
name counts. -/
def header? : List Char → Option Header
  | [] => none
  | c :: rest =>
    match header? rest with
    | some h => some { h with file := c :: h.file }
    | none => (afterFile? rest).map fun (digits, message) => ⟨[c], digits, message⟩

def isHeader (line : List Char) : Bool := (header? line).isSome

def isMarker (c : Char) : Bool := c = '^' || c = '~'

def markedCells? (line : List Char) : Option (Nat × Nat) :=
  let line := trimEnd line
  if line.contains '^' && line.all fun c => isBlank c || isMarker c then
    some ((line.takeWhile isBlank).length, line.length - 1)
  else none

def columns (source : List Char) (marked : Nat × Nat) : Nat × Nat :=
  (charAtCell source marked.1 + 1, charAtCell source marked.2 + 2)

/-- The span that the lines below a header give it. Only two of them count, none of them a
header, and the markers stand under the line before them. -/
def span? (below : List (List Char)) : Option (Nat × Nat) :=
  match (below.take 2).takeWhile fun line => !isHeader line with
  | [] => none
  | [first] => (markedCells? first).map (columns [])
  | first :: second :: _ =>
    match markedCells? first with
    | some marked => some (columns [] marked)
    | none => (markedCells? second).map (columns first)

def toolName : String := "fish"

def ruleName : String := "syntax-error"

def diagnostic? (relabel : Option Path) (line : List Char) (below : List (List Char)) :
    Option Diagnostic := do
  let header ← header? line
  let number ← asciiNumber? header.digits
  let location : Location := { file := relabel.getD ⟨.ofList header.file⟩, line := max number 1 }
  pure {
    tool := toolName
    rule := ruleName
    message := .ofList (trim header.message)
    severity := .error
    location := match span? below with
      | some (column, endColumn) => location.withSpan column endColumn
      | none => location }

def diagnosticsOfLines (relabel : Option Path) : List (List Char) → List Diagnostic
  | [] => []
  | line :: below => (diagnostic? relabel line below).toList ++ diagnosticsOfLines relabel below

def diagnostics (text : String) (relabel : Option Path) : List Diagnostic :=
  diagnosticsOfLines relabel (splitLines text.toList)

end ScriptCheck.Listing
