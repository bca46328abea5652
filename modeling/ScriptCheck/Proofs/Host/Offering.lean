import ScriptCheck.Host.Basic

/-! A machine that has nothing but programs. -/

namespace ScriptCheck

def Host.offering (programs : List (String × Program)) : Host where
  tree := .dir [("bin", .dir (programs.map fun (name, run) => (name, .program run 0o755)))]
  workDir := []
  environment := [("PATH", "/bin")]
  accountHome := none
  console := {}
  clockMs := 0
  journal := []

def Program.complaining : Program := fun _ => {
  readsInput := true, delayMs := 0, stdout := .empty
  stderr := "Standard input (line 1): Unexpected end\n".toUTF8, exit := .code 127 }

def Program.tidying : Program := fun _ => {
  readsInput := true, delayMs := 0, stdout := "echo hi\n".toUTF8, stderr := .empty
  exit := .code 0 }

end ScriptCheck
