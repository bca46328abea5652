import ScriptCheck.Host.Basic

/-! The fish scripts that paths on a command line stand for. -/

namespace ScriptCheck.Scripts

def isHidden (name : String) : Bool := name.toList.head? = some '.'

def isScript (name : String) : Bool := Path.extension? name = some "fish"

mutual
/-- The scripts at or below a path with a name, those of a directory in the order of its
names. Links are not followed. -/
def under (path : Path) (name : String) : Node → List Path
  | .file .. => if isScript name then [path] else []
  | .program .. => if isScript name then [path] else []
  | .link _ => []
  | .dir entries => ((branches path entries).mergeSort fun a b => a.1 ≤ b.1).flatMap (·.2)

def branches (dir : Path) : List (String × Node) → List (String × List Path)
  | [] => []
  | (name, node) :: rest =>
    if isHidden name then branches dir rest
    else (name, under (dir.join ⟨name⟩) name node) :: branches dir rest
end

def ofPath (h : Host) (path : Path) : List Path :=
  match h.node? path with
  | .ok (.dir entries) => under path "" (.dir entries)
  | _ => [path]

def find (h : Host) (paths : List Path) : List Path := paths.flatMap (ofPath h)

end ScriptCheck.Scripts
