import ScriptCheck.Toml.Text

/-! TOML documents. Tables are opened by headers, by dotted keys, or in passing; each may be
defined in one way only, and no key may be given twice. -/

namespace ScriptCheck.Toml

/-- A place in a document under construction. A table is implicit when it has only been
passed through, and dotted when a dotted key made it. -/
inductive Node where
  | value (v : Toml)
  | table (isImplicit isDotted : Bool) (entries : List (String × Node))
  | tables (elements : List (List (String × Node)))
deriving Inhabited

abbrev Entries := List (String × Node)

def replaceEntry (entries : Entries) (key : String) (node : Node) : Entries :=
  entries.map fun e => if e.1 = key then (key, node) else e

/-- Applies `act` to the entries of the table that a path leads to, which are told whether
that table is dotted. Tables on the way are made if need be; of an array of tables the last
one is meant. -/
def descend (dotted : Bool) (act : Bool → Entries → Option Entries) :
    List String → Bool → Entries → Option Entries
  | [], isDotted, entries => act isDotted entries
  | key :: path, _, entries =>
    match entries.lookup key with
    | none => (descend dotted act path dotted []).map fun inner =>
        entries ++ [(key, .table true dotted inner)]
    | some (.value _) => none
    | some (.tables elements) =>
      match elements.getLast? with
      | none => none
      | some last => (descend dotted act path false last).map fun inner =>
          replaceEntry entries key (.tables (elements.dropLast ++ [inner]))
    | some (.table isImplicit isDotted inner) =>
      if dotted && !isImplicit then none
      else (descend dotted act path isDotted inner).map fun inner =>
        replaceEntry entries key (.table isImplicit isDotted inner)

def setKey (path : List String) (key : String) (v : Toml) (isDotted : Bool) (entries : Entries) :
    Option Entries :=
  if isDotted == path.isEmpty || (entries.lookup key).isSome then none
  else some (entries ++ [(key, .value v)])

def addKey (keys : List String) (v : Toml) (entries : Entries) : Option Entries :=
  match keys.getLast? with
  | none => none
  | some key => descend true (setKey keys.dropLast key v) keys.dropLast false entries

def openTable (key : String) (_isDotted : Bool) (entries : Entries) : Option Entries :=
  match entries.lookup key with
  | none => some (entries ++ [(key, .table false false [])])
  | some (.table true false inner) => some (replaceEntry entries key (.table false false inner))
  | _ => none

def openElement (key : String) (_isDotted : Bool) (entries : Entries) : Option Entries :=
  match entries.lookup key with
  | none => some (entries ++ [(key, .tables [[]])])
  | some (.tables elements) => some (replaceEntry entries key (.tables (elements ++ [[]])))
  | _ => none

mutual
def Node.toToml : Node → Toml
  | .value v => v
  | .table _ _ entries => .table (entriesToToml entries)
  | .tables elements => .array (elementsToToml elements)

def entriesToToml : List (String × Node) → List (String × Toml)
  | [] => []
  | (k, v) :: rest => (k, v.toToml) :: entriesToToml rest

def elementsToToml : List (List (String × Node)) → List Toml
  | [] => []
  | entries :: rest => .table (entriesToToml entries) :: elementsToToml rest
end

def afterComment? (s : List Char) : Option (List Char) :=
  match s with
  | '#' :: rest =>
    match rest.dropWhile isPlain with
    | [] => some []
    | '\n' :: rest => some rest
    | _ => none
  | _ => none

def afterLine? (s : List Char) : Option (List Char) :=
  match skipWhite s with
  | [] => some []
  | '\n' :: rest => some rest
  | '#' :: rest => afterComment? ('#' :: rest)
  | _ => none

def skipLines : Nat → List Char → Option (List Char)
  | 0, _ => none
  | fuel + 1, s =>
    match s with
    | '#' :: rest =>
      match rest.dropWhile isPlain with
      | '\n' :: rest => skipLines fuel rest
      | _ => none
    | c :: rest => if isBreakOrWhite c then skipLines fuel rest else some s
    | [] => some []

def isWordChar (c : Char) : Bool :=
  c.isAlphanum || c = '_' || c = '-' || c = '+' || c = '.' || c = ':'

def readScalar (s : List Char) : Option (Toml × List Char) :=
  let word := s.takeWhile isWordChar
  let rest := s.dropWhile isWordChar
  let next := (rest.drop 1).takeWhile isWordChar
  if isDate word && rest.head? = some ' ' && isOffsetTime next then
    some (.date, (rest.drop 1).dropWhile isWordChar)
  else (scalar? word).map (·, rest)

mutual
def readValue : Nat → Nat → List Char → Option (Toml × List Char)
  | 0, _, _ => none
  | fuel + 1, depth, s =>
    match s with
    | '[' :: rest =>
      if depth + 1 < depthLimit then
        (readItems fuel (depth + 1) rest).map fun (items, rest) => (.array items, rest)
      else none
    | '\x7b' :: rest =>
      if depth + 1 < depthLimit then
        match skipWhite rest with
        | '\x7d' :: rest => some (.table [], rest)
        | rest => (readInline fuel (depth + 1) [] rest).map fun (entries, rest) =>
            (.table (entriesToToml entries), rest)
      else none
    | '"' :: _ => (readText s).map fun (t, rest) => (.text t, rest)
    | '\'' :: _ => (readText s).map fun (t, rest) => (.text t, rest)
    | _ => readScalar s

def readItems : Nat → Nat → List Char → Option (List Toml × List Char)
  | 0, _, _ => none
  | fuel + 1, depth, s =>
    match skipLines (s.length + 1) s with
    | none => none
    | some (']' :: rest) => some ([], rest)
    | some s =>
      match readValue fuel depth s with
      | none => none
      | some (v, rest) =>
        match skipLines (rest.length + 1) rest with
        | some (',' :: rest) =>
          (readItems fuel depth rest).map fun (items, rest) => (v :: items, rest)
        | some (']' :: rest) => some ([v], rest)
        | _ => none

def readInline : Nat → Nat → Entries → List Char → Option (Entries × List Char)
  | 0, _, _, _ => none
  | fuel + 1, depth, entries, s =>
    match readKey s with
    | some (keys, '=' :: rest) =>
      match readValue fuel depth (skipWhite rest) with
      | none => none
      | some (v, rest) =>
        match addKey keys v entries with
        | none => none
        | some entries =>
          match skipWhite rest with
          | ',' :: rest => readInline fuel depth entries rest
          | '\x7d' :: rest => some (entries, rest)
          | _ => none
    | _ => none
end

def readHeader (closing : List Char) (s : List Char) : Option (List String × List Char) := do
  let (keys, rest) ← readKey s
  if closing.isPrefixOf rest then
    let rest ← afterLine? (rest.drop closing.length)
    pure (keys, rest)
  else none

/-- Reads line by line; `header` leads to the table that takes the keys. -/
def readDocument : Nat → List String → Entries → List Char → Option Entries
  | 0, _, _, _ => none
  | fuel + 1, header, root, s =>
    match skipWhite s with
    | [] => some root
    | '\n' :: rest => readDocument fuel header root rest
    | '#' :: rest =>
      match afterComment? ('#' :: rest) with
      | some rest => readDocument fuel header root rest
      | none => none
    | '[' :: '[' :: rest => do
      let (keys, rest) ← readHeader [']', ']'] rest
      let root ← descend false (openElement (keys.getLastD "")) keys.dropLast false root
      readDocument fuel keys root rest
    | '[' :: rest => do
      let (keys, rest) ← readHeader [']'] rest
      let root ← descend false (openTable (keys.getLastD "")) keys.dropLast false root
      readDocument fuel keys root rest
    | s => do
      let (keys, rest) ← readKey s
      match rest with
      | '=' :: rest =>
        let rest := skipWhite rest
        let (v, rest) ← readValue (rest.length + 1) 0 rest
        let rest ← afterLine? rest
        let root ← descend false (fun _ entries => addKey keys v entries) header false root
        readDocument fuel header root rest
      | _ => none

def joinBreaks : List Char → List Char
  | '\r' :: '\n' :: rest => '\n' :: joinBreaks rest
  | c :: rest => c :: joinBreaks rest
  | [] => []

def parse? (text : String) : Option Toml :=
  let s := match text.toList with
    | '\ufeff' :: rest => rest
    | s => s
  let s := joinBreaks s
  (readDocument (s.length + 1) [] [] s).map fun root => .table (entriesToToml root)

end ScriptCheck.Toml
