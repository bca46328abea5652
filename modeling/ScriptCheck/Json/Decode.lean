import ScriptCheck.Limits
import ScriptCheck.Json.Basic
import ScriptCheck.Text.Quoted
import ScriptCheck.Decimal.Shortest

/-! Reading typed data out of JSON values. The first value that does not fit, in the order
of the entries, decides the error. -/

namespace ScriptCheck

inductive Shape where
  | null
  | bool (value : Bool)
  | int (value : Int)
  | real (value : Binary64)
  | str (value : String)
  | sequence
  | map
deriving DecidableEq, Repr

inductive DecodeError where
  | invalidType (found : Shape) (wanted : String)
  | invalidValue (found : Shape) (wanted : String)
  | invalidLength (length : Nat) (wanted : String)
  | missingField (name : String)
  | unknownVariant (name : String) (known : List String)
deriving DecidableEq, Repr

def Shape.describe : Shape → String
  | .null => "null"
  | .bool value => "boolean `" ++ toString value ++ "`"
  | .int value => "integer `" ++ toString value ++ "`"
  | .real value => "floating point `" ++ value.toText ++ "`"
  | .str value => "string " ++ Text.quoted value
  | .sequence => "sequence"
  | .map => "map"

def DecodeError.choices (names : List String) : String :=
  let ticked := names.map fun n => "`" ++ n ++ "`"
  match ticked with
  | [] => "there are no variants"
  | [a] => "expected " ++ a
  | [a, b] => "expected " ++ a ++ " or " ++ b
  | _ => "expected one of " ++ ", ".intercalate ticked

def DecodeError.message : DecodeError → String
  | .invalidType found wanted => "invalid type: " ++ found.describe ++ ", expected " ++ wanted
  | .invalidValue found wanted => "invalid value: " ++ found.describe ++ ", expected " ++ wanted
  | .invalidLength n wanted => "invalid length " ++ toString n ++ ", expected " ++ wanted
  | .missingField name => "missing field `" ++ name ++ "`"
  | .unknownVariant name known => "unknown variant `" ++ name ++ "`, " ++ choices known

namespace Json

abbrev Decoded := Except DecodeError

def shape : Json → Shape
  | .null => .null
  | .bool value => .bool value
  | .int value => .int value
  | .real value => .real value
  | .str value => .str value
  | .arr _ => .sequence
  | .obj _ => .map

def expectBool : Json → Decoded Bool
  | .bool value => pure value
  | v => throw (.invalidType v.shape "a boolean")

def expectString (wanted : String) : Json → Decoded String
  | .str value => pure value
  | v => throw (.invalidType v.shape wanted)

def expectNat (wanted : String) : Json → Decoded Nat
  | .int value =>
    if 0 ≤ value ∧ value < limit64 then pure value.toNat
    else throw (.invalidValue (.int value) wanted)
  | v => throw (.invalidType v.shape wanted)

def expectInt32 : Json → Decoded Int
  | .int value =>
    if -(limit31 : Int) ≤ value ∧ value < limit31 then pure value
    else throw (.invalidValue (.int value) "i32")
  | v => throw (.invalidType v.shape "i32")

def expectList : Json → Decoded (List Json)
  | .arr items => pure items
  | v => throw (.invalidType v.shape "a sequence")

def optional (decode : Json → Decoded α) : Json → Decoded (Option α)
  | .null => pure none
  | v => some <$> decode v

structure Rules where
  surplusItems : Bool
  payload : Json → Decoded Unit

/-- In JSON a record has no further items and a variant comes with null. -/
def strictRules : Rules where
  surplusItems := false
  payload
    | .null => pure ()
    | v => throw (.invalidType v.shape "unit")

def expectVariant (rules : Rules) (known : List String) : Json → Decoded String
  | .str name => check name
  | .obj [(name, value)] => do
    let name ← check name
    rules.payload value
    pure name
  | .obj _ => throw (.invalidValue .map "map with a single key")
  | v => throw (.invalidType v.shape "string or map")
where
  check (name : String) : Decoded String :=
    if name ∈ known then pure name else throw (.unknownVariant name known)

/-- A record as an object, or as an array of its fields in order: every entry is folded into
the draft in turn. -/
def foldRecord (rules : Rules) (name : String) (fields : List String)
    (step : α → String → Json → Decoded α) (draft : α) : Json → Decoded α
  | .obj entries => entries.foldlM (fun d (k, v) => step d k v) draft
  | .arr items => do
    let d ← (fields.zip items).foldlM (fun d (k, v) => step d k v) draft
    if !rules.surplusItems && fields.length < items.length then
      throw (.invalidLength items.length "fewer elements in array")
    pure d
  | v => throw (.invalidType v.shape ("struct " ++ name))

def require (name : String) (fields : List String) (source : Json) (field : String)
    (value : Option α) : Decoded α :=
  match value, source with
  | some a, _ => pure a
  | none, .arr items => throw (.invalidLength items.length
      ("struct " ++ name ++ " with " ++ toString fields.length ++ " elements"))
  | none, _ => throw (.missingField field)

end Json
end ScriptCheck
