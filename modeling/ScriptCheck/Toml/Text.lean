import ScriptCheck.Toml.Scalar

/-! TOML strings in their four notations, and keys. Every reader takes the characters at its
place and gives what it read and what follows. -/

namespace ScriptCheck.Toml

def isWhite (c : Char) : Bool := c = ' ' || c = '\t'

def skipWhite (s : List Char) : List Char := s.dropWhile isWhite

def isPlain (c : Char) : Bool := c = '\t' || (0x20 ≤ c.toNat && c.toNat != 0x7f)

def codePoint? (digits : List Char) : Option Char :=
  if digits.all isHex then
    let n := numberOf 16 digits
    if n < 0xd800 ∨ (0xe000 ≤ n ∧ n < 0x110000) then some (Char.ofNat n) else none
  else none

def escaped? (c : Char) : Option Char :=
  match c with
  | 'b' => some '\x08'
  | 't' => some '\t'
  | 'n' => some '\n'
  | 'f' => some '\x0c'
  | 'r' => some '\r'
  | '"' => some '"'
  | '\\' => some '\\'
  | _ => none

def readBasic (gathered : List Char) : List Char → Option (String × List Char)
  | [] => none
  | '"' :: rest => some (.ofList gathered.reverse, rest)
  | '\\' :: 'u' :: a :: b :: c :: d :: rest =>
    match codePoint? [a, b, c, d] with
    | some e => readBasic (e :: gathered) rest
    | none => none
  | '\\' :: 'U' :: a :: b :: c :: d :: e :: f :: g :: h :: rest =>
    match codePoint? [a, b, c, d, e, f, g, h] with
    | some e => readBasic (e :: gathered) rest
    | none => none
  | '\\' :: c :: rest =>
    match escaped? c with
    | some e => readBasic (e :: gathered) rest
    | none => none
  | c :: rest => if isPlain c then readBasic (c :: gathered) rest else none

def readLiteral (gathered : List Char) : List Char → Option (String × List Char)
  | [] => none
  | '\'' :: rest => some (.ofList gathered.reverse, rest)
  | c :: rest => if isPlain c then readLiteral (c :: gathered) rest else none

/-- The end of a string over several lines: up to two quotes may stand before the three that
close it. Gives the number of those and what follows. -/
def closeQuotes (quote : Char) (s : List Char) : Option (Nat × List Char) :=
  let n := (s.takeWhile (· = quote)).length
  if n < 3 then none
  else if 5 < n then some (2, s.drop 5)
  else some (n - 3, s.drop n)

def isBreakOrWhite (c : Char) : Bool := isWhite c || c = '\n'

/-- The rest of a string between triple double quotes, with line breaks as newlines. The
flag holds after a backslash at the end of a line: what is blank is left out. -/
def readBasicLines (gathered : List Char) (joining : Bool) : List Char → Option (String × List Char)
  | [] => none
  | '\\' :: 'u' :: a :: b :: c :: d :: rest =>
    match codePoint? [a, b, c, d] with
    | some e => readBasicLines (e :: gathered) false rest
    | none => none
  | '\\' :: 'U' :: a :: b :: c :: d :: e :: f :: g :: h :: rest =>
    match codePoint? [a, b, c, d, e, f, g, h] with
    | some e => readBasicLines (e :: gathered) false rest
    | none => none
  | '\\' :: c :: rest =>
    match escaped? c with
    | some e => readBasicLines (e :: gathered) false rest
    | none =>
      if isBreakOrWhite c ∧ (skipWhite (c :: rest)).head? = some '\n' then
        readBasicLines gathered true rest
      else none
  | c :: rest =>
    if joining ∧ isBreakOrWhite c then readBasicLines gathered true rest
    else if c = '"' then
      match closeQuotes '"' (c :: rest) with
      | some (extra, rest) => some (.ofList (gathered.reverse ++ List.replicate extra '"'), rest)
      | none => readBasicLines (c :: gathered) false rest
    else if isPlain c || c = '\n' then readBasicLines (c :: gathered) false rest
    else none

def readLiteralLines (gathered : List Char) : List Char → Option (String × List Char)
  | [] => none
  | c :: rest =>
    if c = '\'' then
      match closeQuotes '\'' (c :: rest) with
      | some (extra, rest) => some (.ofList (gathered.reverse ++ List.replicate extra '\''), rest)
      | none => readLiteralLines (c :: gathered) rest
    else if isPlain c || c = '\n' then readLiteralLines (c :: gathered) rest
    else none

def dropBreak (s : List Char) : List Char :=
  match s with
  | '\n' :: rest => rest
  | _ => s

def readText (s : List Char) : Option (String × List Char) :=
  match s with
  | '"' :: '"' :: '"' :: rest => readBasicLines [] false (dropBreak rest)
  | '"' :: rest => readBasic [] rest
  | '\'' :: '\'' :: '\'' :: rest => readLiteralLines [] (dropBreak rest)
  | '\'' :: rest => readLiteral [] rest
  | _ => none

def isBareKey (c : Char) : Bool := c.isAlphanum || c = '_' || c = '-'

def readKeyPart (s : List Char) : Option (String × List Char) :=
  match s with
  | '"' :: rest => readBasic [] rest
  | '\'' :: rest => readLiteral [] rest
  | _ =>
    let name := s.takeWhile isBareKey
    if name.isEmpty then none else some (.ofList name, s.dropWhile isBareKey)

def readKeyParts : Nat → List Char → Option (List String × List Char)
  | 0, _ => none
  | fuel + 1, s => do
    let (part, rest) ← readKeyPart (skipWhite s)
    match skipWhite rest with
    | '.' :: rest =>
      let (parts, rest) ← readKeyParts fuel rest
      pure (part :: parts, rest)
    | rest => pure ([part], rest)

def depthLimit : Nat := 80

def readKey (s : List Char) : Option (List String × List Char) := readKeyParts (depthLimit - 1) s

end ScriptCheck.Toml
