/-! Where a command reads from and writes to. -/

namespace ScriptCheck

/-- What becomes of standard output: it is read, nobody reads it any more, or it takes nothing. -/
inductive Sink where
  | opened
  | closed
  | full
deriving DecidableEq, Repr

structure Console where
  input : ByteArray := .empty
  sink : Sink := .opened
  isTerminal : Bool := false
  output : String := ""
  errors : String := ""

def Console.lineBuffer : Nat := 1024

end ScriptCheck
