import ScriptCheck.Host.Error
import ScriptCheck.Path

/-! The tree of files: directories, files, programs and symbolic links, and where a path
leads in it. -/

namespace ScriptCheck

structure Call where
  arguments : List String
  workDir : List String
  input : ByteArray

inductive Exit where
  | code (n : Nat)
  | signal (n : Nat)
deriving DecidableEq, Repr

structure Outcome where
  readsInput : Bool
  delayMs : Nat
  stdout : ByteArray
  stderr : ByteArray
  exit : Exit

abbrev Program := Call → Outcome

inductive Node where
  | file (content : ByteArray) (mode : Nat)
  | program (run : Program) (mode : Nat)
  | dir (entries : List (String × Node))
  | link (target : Path)

/-- The names on the way from the root to a place, none of them a link. -/
abbrev Place := List String

namespace Node

instance : Inhabited Node := ⟨.dir []⟩

def isDir : Node → Bool
  | dir _ => true
  | _ => false

def isFile : Node → Bool
  | file .. => true
  | program .. => true
  | _ => false

def at? : Node → List String → Option Node
  | node, [] => some node
  | dir entries, name :: rest =>
    match entries.lookup name with
    | some child => at? child rest
    | none => none
  | _, _ :: _ => none

def putEntry (name : String) (node : Node) : List (String × Node) → List (String × Node)
  | [] => [(name, node)]
  | (n, old) :: rest => if n = name then (name, node) :: rest else (n, old) :: putEntry name node rest

def put : Node → List String → Node → Node
  | _, [], new => new
  | dir entries, name :: rest, new =>
    match rest, entries.lookup name with
    | [], _ => dir (putEntry name new entries)
    | _ :: _, some child => dir (putEntry name (child.put rest new) entries)
    | _ :: _, none => dir entries
  | node, _ :: _, _ => node

end Node

namespace Path

def names (p : Path) : List String :=
  let pieces := Text.split '/' p.text
  let named := pieces.filter (· ≠ "")
  if pieces.getLast? = some "" ∧ !named.isEmpty then named ++ ["."] else named

def defect? (p : Path) : Option IoError :=
  if p.text.toList.contains '\x00' then some .nulInPath
  else if p.text = "" then some .notFound
  else if 4096 ≤ p.text.utf8ByteSize then some .nameTooLong
  else none

end Path

namespace Node

/-- Follows names from a location; `jump` takes over at a link. A link at the very end is
followed only if `follow`. The last name need not be there. -/
def walkNames (root : Node) (follow : Bool) (jump : Place → List String → Except IoError Place) :
    Place → List String → Except IoError Place
  | here, [] => .ok here
  | here, name :: rest =>
    match root.at? here with
    | some (dir entries) =>
      if name = "." then walkNames root follow jump here rest
      else if name = ".." then walkNames root follow jump here.dropLast rest
      else if 255 < name.utf8ByteSize then .error .nameTooLong
      else match entries.lookup name with
        | none => if rest.isEmpty then .ok (here ++ [name]) else .error .notFound
        | some (link target) =>
          if rest.isEmpty && !follow then .ok (here ++ [name])
          else jump (if target.isAbsolute then [] else here) (target.names ++ rest)
        | some _ => walkNames root follow jump (here ++ [name]) rest
    | _ => .error .notDirectory

def walk (root : Node) (follow : Bool) : Nat → Place → List String → Except IoError Place
  | 0, here, names => walkNames root follow (fun _ _ => .error .tooManyLinks) here names
  | links + 1, here, names => walkNames root follow (walk root follow links) here names

def locate (root : Node) (from_ : Place) (path : Path) (follow : Bool) : Except IoError Place :=
  match path.defect? with
  | some e => .error e
  | none => root.walk follow 40 (if path.isAbsolute then [] else from_) path.names

end Node
end ScriptCheck
