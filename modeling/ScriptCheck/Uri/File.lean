import ScriptCheck.Uri.Basic
import ScriptCheck.Path

/-! The file a URI names, and whether it names a fish script. -/

namespace ScriptCheck.Uri

def closeDrive (bytes : List UInt8) : List UInt8 :=
  match bytes.reverse with
  | last :: letter :: _ :: _ =>
    let n := letter.toNat
    if (last = 58 ∨ last = 124) ∧ ((65 ≤ n ∧ n < 91) ∨ (97 ≤ n ∧ n < 123)) then bytes ++ [47] else bytes
  | _ => bytes

/-- The path on this machine: the decoded segments, when the host is absent or local. -/
def filePath? (u : Uri) : Option Path :=
  match u.trail with
  | .opaquePath _ => none
  | .segments [] => none
  | .segments names =>
    let isLocal : Bool := match u.authority with
      | none => true
      | some a => a.host = .empty || a.host = .domain "localhost"
    if isLocal then
      let bytes := closeDrive (names.flatMap fun name => 47 :: decodedBytes name)
      some ⟨Text.decodeLossy ⟨bytes.toArray⟩⟩
    else none

def label (u : Uri) : Path := u.filePath?.getD ⟨u.path⟩

def isFish (u : Uri) (language : String) : Bool :=
  language = "fish" || ".fish".toList.isSuffixOf u.path.toList

end ScriptCheck.Uri
