import ScriptCheck.Diagnostic.Basic

/-! Diagnostics as lines of text, `file:line[:col]: severity [rule] message`, and the colours
of a terminal. -/

namespace ScriptCheck

inductive Style where
  | boldRed
  | red
  | green
  | yellow
  | blue
  | dim
deriving DecidableEq, Repr

namespace Style

def code : Style → String
  | boldRed => "1;31"
  | red => "31"
  | green => "32"
  | yellow => "33"
  | blue => "34"
  | dim => "2"

def paint (style : Style) (text : String) : String :=
  "\x1b[" ++ style.code ++ "m" ++ text ++ "\x1b[0m"

def paintIf (colors : Bool) (style : Style) (text : String) : String :=
  if colors then style.paint text else text

end Style

def Severity.style : Severity → Style
  | .error => .boldRed
  | .warning => .yellow
  | .info => .blue
  | .hint => .dim

def Diagnostic.line (d : Diagnostic) (colors : Bool) : String :=
  let position := match d.location.column with
    | some column => toString d.location.line ++ ":" ++ toString column
    | none => toString d.location.line
  d.location.file.text ++ ":" ++ position ++ ": "
    ++ d.severity.style.paintIf colors d.severity.name ++ " [" ++ d.rule ++ "] " ++ d.message

end ScriptCheck
