import ScriptCheck.Decimal.Binary64

/-! JSON values. An object keeps its entries in a list; values that were read have each key
once, in byte order. -/

namespace ScriptCheck

inductive Json where
  | null
  | bool (value : Bool)
  | int (value : Int)
  | real (value : Binary64)
  | str (value : String)
  | arr (items : List Json)
  | obj (entries : List (String × Json))
deriving Inhabited, Repr

namespace Json

/-- Adds an entry where its key belongs in byte order; the later value for a key wins. -/
def insertEntry (key : String) (value : Json) : List (String × Json) → List (String × Json)
  | [] => [(key, value)]
  | (k, v) :: rest =>
    if key < k then (key, value) :: (k, v) :: rest
    else if key = k then (key, value) :: rest
    else (k, v) :: insertEntry key value rest

def object (entries : List (String × Json)) : Json :=
  .obj (entries.foldl (fun sorted (k, v) => insertEntry k v sorted) [])

def get? (value : Json) (key : String) : Option Json :=
  match value with
  | .obj entries => entries.lookup key
  | _ => none

def isNull : Json → Bool
  | .null => true
  | _ => false

def nat (n : Nat) : Json := .int n

def orNull (f : α → Json) : Option α → Json
  | some a => f a
  | none => .null

end Json
end ScriptCheck
