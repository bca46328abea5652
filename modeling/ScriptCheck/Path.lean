import ScriptCheck.Text.Split

/-! Paths as they are written, and the components they consist of. -/

namespace ScriptCheck

structure Path where
  text : String
deriving DecidableEq, Repr, Inhabited

namespace Path

inductive Component where
  | root
  | here
  | up
  | name (text : String)
deriving DecidableEq, Repr

def isAbsolute (p : Path) : Bool := p.text.toList.head? = some '/'

/-- Repeated slashes count once, and a dot counts only at the start of a relative path. -/
def components (p : Path) : List Component :=
  let named (piece : String) : Option Component :=
    if piece = "" ∨ piece = "." then none
    else if piece = ".." then some .up
    else some (.name piece)
  let pieces := Text.split '/' p.text
  let start := if p.isAbsolute then [.root] else if pieces.head? = some "." then [.here] else []
  start ++ pieces.filterMap named

def same (p q : Path) : Bool := p.components = q.components

def ofComponents (parts : List Component) : Path :=
  let word : Component → String
    | .root => ""
    | .here => "."
    | .up => ".."
    | .name text => text
  match parts with
  | [.root] => ⟨"/"⟩
  | parts => ⟨"/".intercalate (parts.map word)⟩

def parent? (p : Path) : Option Path :=
  match p.components with
  | [] => none
  | [.root] => none
  | parts => some (ofComponents parts.dropLast)

def join (p q : Path) : Path :=
  if q.isAbsolute ∨ p.text = "" then q
  else if p.text.toList.getLast? = some '/' then ⟨p.text ++ q.text⟩
  else ⟨p.text ++ "/" ++ q.text⟩

def extension? (name : String) : Option String :=
  match (Text.pieces '.' name.toList).reverse with
  | [last, stem] => if stem.isEmpty then none else some (.ofList last)
  | last :: _ :: _ => some (.ofList last)
  | _ => none

end Path
end ScriptCheck
