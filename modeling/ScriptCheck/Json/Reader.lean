import ScriptCheck.Limits
import ScriptCheck.Json.Basic

/-! Reading JSON text. Every reader takes the characters at its place and gives the value
and what follows it. -/

namespace ScriptCheck.Json

def isSpace (c : Char) : Bool := c = ' ' || c = '\n' || c = '\t' || c = '\r'

def skipSpace (s : List Char) : List Char := s.dropWhile isSpace

def after? (word : List Char) (s : List Char) : Option (List Char) :=
  if word.isPrefixOf s then some (s.drop word.length) else none

def hexValue? (c : Char) : Option Nat :=
  if '0' ≤ c ∧ c ≤ '9' then some (c.toNat - 48)
  else if 'a' ≤ c ∧ c ≤ 'f' then some (c.toNat - 87)
  else if 'A' ≤ c ∧ c ≤ 'F' then some (c.toNat - 55)
  else none

def hexUnit? (a b c d : Char) : Option Nat := do
  pure (4096 * (← hexValue? a) + 256 * (← hexValue? b) + 16 * (← hexValue? c) + (← hexValue? d))

def shortEscape? (c : Char) : Option Char :=
  if c = '"' ∨ c = '\\' ∨ c = '/' then some c
  else if c = 'b' then some '\x08'
  else if c = 'f' then some '\x0c'
  else if c = 'n' then some '\n'
  else if c = 'r' then some '\r'
  else if c = 't' then some '\t'
  else none

inductive Piece where
  | char (c : Char)
  | unit (n : Nat)

def readPieces (gathered : List Piece) : List Char → Option (List Piece × List Char)
  | [] => none
  | '"' :: rest => some (gathered.reverse, rest)
  | '\\' :: 'u' :: a :: b :: c :: d :: rest =>
    match hexUnit? a b c d with
    | some n => readPieces (.unit n :: gathered) rest
    | none => none
  | '\\' :: c :: rest =>
    match shortEscape? c with
    | some e => readPieces (.char e :: gathered) rest
    | none => none
  | c :: rest => if c.toNat < 0x20 then none else readPieces (.char c :: gathered) rest

def joinPieces (gathered : List Char) : List Piece → Option (List Char)
  | [] => some gathered.reverse
  | .char c :: rest => joinPieces (c :: gathered) rest
  | .unit n :: .unit m :: rest =>
    if 0xd800 ≤ n ∧ n < 0xdc00 then
      if 0xdc00 ≤ m ∧ m < 0xe000 then
        joinPieces (Char.ofNat (0x10000 + 1024 * (n - 0xd800) + (m - 0xdc00)) :: gathered) rest
      else none
    else if 0xdc00 ≤ n ∧ n < 0xe000 then none
    else joinPieces (Char.ofNat n :: gathered) (.unit m :: rest)
  | .unit n :: rest =>
    if 0xd800 ≤ n ∧ n < 0xe000 then none else joinPieces (Char.ofNat n :: gathered) rest

def readString (s : List Char) : Option (String × List Char) := do
  let (pieces, rest) ← readPieces [] s
  let chars ← joinPieces [] pieces
  pure (.ofList chars, rest)

def isDecimal (c : Char) : Bool := '0' ≤ c && c ≤ '9'

def decimalValue (digits : List Char) : Nat :=
  digits.foldl (fun n c => 10 * n + (c.toNat - 48)) 0

def readFraction (s : List Char) : Option (List Char × List Char) :=
  match s with
  | '.' :: rest =>
    let digits := rest.takeWhile isDecimal
    if digits.isEmpty then none else some (digits, rest.dropWhile isDecimal)
  | _ => some ([], s)

def readExponent (s : List Char) : Option (Option Int × List Char) :=
  match s with
  | c :: rest =>
    if c = 'e' ∨ c = 'E' then
      let (negative, rest) := match rest with
        | '+' :: r => (false, r)
        | '-' :: r => (true, r)
        | _ => (false, rest)
      let digits := rest.takeWhile isDecimal
      if digits.isEmpty then none
      else
        let n : Int := decimalValue digits
        some (some (if negative then -n else n), rest.dropWhile isDecimal)
    else some (none, s)
  | [] => some (none, [])

def integer? (negative : Bool) (n : Nat) : Option Json :=
  if negative then if 0 < n ∧ n ≤ limit63 then some (.int (-(n : Int))) else none
  else if n < limit64 then some (.int n) else none

def real? (negative : Bool) (digits : List Char) (power : Int) : Option Json :=
  (Binary64.ofDecimal? negative (decimalValue digits) power).map .real

def number? (negative : Bool) (whole fraction : List Char) (power : Option Int) : Option Json :=
  match fraction, power with
  | [], none =>
    match integer? negative (decimalValue whole) with
    | some value => some value
    | none => real? negative whole 0
  | _, _ => real? negative (whole ++ fraction) (power.getD 0 - fraction.length)

def readNumber (negative : Bool) (s : List Char) : Option (Json × List Char) := do
  let whole := s.takeWhile isDecimal
  if whole.isEmpty ∨ (whole.head? = some '0' ∧ 1 < whole.length) then none
  else
    let (fraction, rest) ← readFraction (s.dropWhile isDecimal)
    let (power, rest) ← readExponent rest
    (number? negative whole fraction power).map (·, rest)

mutual
def readValue : Nat → List Char → Option (Json × List Char)
  | 0, _ => none
  | fuel + 1, s =>
    match skipSpace s with
    | '"' :: rest => (readString rest).map fun (text, rest) => (.str text, rest)
    | '[' :: rest =>
      match skipSpace rest with
      | ']' :: rest => some (.arr [], rest)
      | _ => (readItems fuel rest).map fun (items, rest) => (.arr items, rest)
    | '\x7b' :: rest =>
      match skipSpace rest with
      | '\x7d' :: rest => some (.obj [], rest)
      | _ => (readEntries fuel rest).map fun (entries, rest) => (object entries, rest)
    | '-' :: rest => readNumber true rest
    | 'n' :: rest => (after? "ull".toList rest).map (.null, ·)
    | 't' :: rest => (after? "rue".toList rest).map (.bool true, ·)
    | 'f' :: rest => (after? "alse".toList rest).map (.bool false, ·)
    | rest => readNumber false rest

def readItems : Nat → List Char → Option (List Json × List Char)
  | 0, _ => none
  | fuel + 1, s =>
    match readValue fuel s with
    | none => none
    | some (value, rest) =>
      match skipSpace rest with
      | ',' :: rest => (readItems fuel rest).map fun (values, rest) => (value :: values, rest)
      | ']' :: rest => some ([value], rest)
      | _ => none

def readEntries : Nat → List Char → Option (List (String × Json) × List Char)
  | 0, _ => none
  | fuel + 1, s =>
    match skipSpace s with
    | '"' :: rest =>
      match readString rest with
      | none => none
      | some (key, rest) =>
        match skipSpace rest with
        | ':' :: rest =>
          match readValue fuel rest with
          | none => none
          | some (value, rest) =>
            match skipSpace rest with
            | ',' :: rest =>
              (readEntries fuel rest).map fun (entries, rest) => ((key, value) :: entries, rest)
            | '\x7d' :: rest => some ([(key, value)], rest)
            | _ => none
        | _ => none
    | _ => none
end

/-- The value a whole text stands for. Each step takes at least one character, so the
length of the text bounds them. -/
def parseChars (s : List Char) : Option Json :=
  match readValue (s.length + 1) s with
  | some (value, rest) => if (skipSpace rest).isEmpty then some value else none
  | none => none

def parse? (text : String) : Option Json := parseChars text.toList

end ScriptCheck.Json
