import ScriptCheck.Duration
import ScriptCheck.Host.Error

/-! Why a tool gave no result. -/

namespace ScriptCheck

inductive Stream where
  | stdout
  | stderr
deriving DecidableEq, Repr

def Stream.name : Stream → String
  | stdout => "stdout"
  | stderr => "stderr"

/-- A process without an exit code was ended by a signal. -/
inductive ToolError where
  | notFound (program : String)
  | timeout (program : String) (after : Duration)
  | executionFailed (tool : String) (code : Option Int) (stderr : String)
  | unexpectedOutput (tool : String) (code : Option Int) (stderr : String)
  | nonUtf8 (stream : Stream)
  | unsupported (tool : String)
  | io (error : IoError)
deriving DecidableEq, Repr

namespace ToolError

def exitText : Option Int → String
  | some code => "code " ++ toString code
  | none => "signal"

def message : ToolError → String
  | notFound program => "tool not found: " ++ program
  | timeout program after => program ++ " timed out after " ++ after.text
  | executionFailed tool code stderr => tool ++ " exited with " ++ exitText code ++ ": " ++ stderr
  | unexpectedOutput tool code stderr =>
    "unexpected output from " ++ tool ++ " (exit " ++ exitText code ++ "): " ++ stderr
  | nonUtf8 stream => "tool produced non-UTF-8 " ++ stream.name
  | unsupported tool => tool ++ " does not support this operation"
  | io error => "IO error: " ++ error.message

end ToolError
end ScriptCheck
