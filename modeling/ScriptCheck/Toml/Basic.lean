import ScriptCheck.Json.Basic

/-! TOML values. No setting takes a floating point number or a date, so these are kept as
kinds without their values. -/

namespace ScriptCheck

inductive Toml where
  | text (value : String)
  | integer (value : Int)
  | float
  | boolean (value : Bool)
  | date
  | array (items : List Toml)
  | table (entries : List (String × Toml))
deriving Inhabited, Repr

namespace Toml

mutual
def toJson : Toml → Json
  | .text value => .str value
  | .integer value => .int value
  | .float => .real ⟨false, 0, 0⟩
  | .boolean value => .bool value
  | .date => .obj [("$date", .str "")]
  | .array items => .arr (itemsToJson items)
  | .table entries => .obj (entriesToJson entries)

def itemsToJson : List Toml → List Json
  | [] => []
  | v :: rest => toJson v :: itemsToJson rest

def entriesToJson : List (String × Toml) → List (String × Json)
  | [] => []
  | (k, v) :: rest => (k, toJson v) :: entriesToJson rest
end

end Toml
end ScriptCheck
