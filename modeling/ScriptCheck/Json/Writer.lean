import ScriptCheck.Json.Basic
import ScriptCheck.Decimal.Shortest

/-! JSON text: on one line, or indented by two spaces. -/

namespace ScriptCheck.Json

def hexDigit (n : Nat) : Char := if n < 10 then Char.ofNat (48 + n) else Char.ofNat (87 + n)

def escapeChar (c : Char) : List Char :=
  if c = '"' then ['\\', '"']
  else if c = '\\' then ['\\', '\\']
  else if c = '\x08' then ['\\', 'b']
  else if c = '\x0c' then ['\\', 'f']
  else if c = '\n' then ['\\', 'n']
  else if c = '\r' then ['\\', 'r']
  else if c = '\t' then ['\\', 't']
  else if c.toNat < 0x20 then
    ['\\', 'u', '0', '0', hexDigit (c.toNat / 16), hexDigit (c.toNat % 16)]
  else [c]

def writeString (s : String) : List Char := '"' :: s.toList.flatMap escapeChar ++ ['"']

def writeInt (n : Int) : List Char := (toString n).toList

def separated (sep : List Char) : List (List Char) → List Char
  | [] => []
  | [x] => x
  | x :: y :: rest => x ++ sep ++ separated sep (y :: rest)

mutual
def writeValue : Json → List Char
  | .null => ['n', 'u', 'l', 'l']
  | .bool true => ['t', 'r', 'u', 'e']
  | .bool false => ['f', 'a', 'l', 's', 'e']
  | .int n => writeInt n
  | .real x => x.toText.toList
  | .str s => writeString s
  | .arr items => '[' :: separated [','] (writeItems items) ++ [']']
  | .obj entries => '\x7b' :: separated [','] (writeEntries entries) ++ ['\x7d']

def writeItems : List Json → List (List Char)
  | [] => []
  | v :: rest => writeValue v :: writeItems rest

def writeEntries : List (String × Json) → List (List Char)
  | [] => []
  | (k, v) :: rest => (writeString k ++ ':' :: writeValue v) :: writeEntries rest
end

def newline (depth : Nat) : List Char := '\n' :: List.replicate (2 * depth) ' '

def block (opening closing : Char) (depth : Nat) (parts : List (List Char)) : List Char :=
  if parts.isEmpty then [opening, closing]
  else opening :: newline (depth + 1) ++ separated (',' :: newline (depth + 1)) parts
    ++ newline depth ++ [closing]

mutual
def layoutValue (depth : Nat) : Json → List Char
  | .arr items => block '[' ']' depth (layoutItems (depth + 1) items)
  | .obj entries => block '\x7b' '\x7d' depth (layoutEntries (depth + 1) entries)
  | .null => writeValue .null
  | .bool b => writeValue (.bool b)
  | .int n => writeValue (.int n)
  | .real x => writeValue (.real x)
  | .str s => writeValue (.str s)

def layoutItems (depth : Nat) : List Json → List (List Char)
  | [] => []
  | v :: rest => layoutValue depth v :: layoutItems depth rest

def layoutEntries (depth : Nat) : List (String × Json) → List (List Char)
  | [] => []
  | (k, v) :: rest =>
    (writeString k ++ ':' :: ' ' :: layoutValue depth v) :: layoutEntries depth rest
end

def compress (value : Json) : String := .ofList (writeValue value)

def layout (value : Json) : String := .ofList (layoutValue 0 value)

end ScriptCheck.Json
