import ScriptCheck.Uri.Host

/-! Reading an absolute URI. Schemes of the web and files are special: for them a backslash
is a slash, and a path is never empty. -/

namespace ScriptCheck.Uri

def isSpecial (scheme : String) : Bool :=
  scheme = "file" || scheme = "http" || scheme = "https" || scheme = "ws" || scheme = "wss"
    || scheme = "ftp"

def defaultPort? (scheme : String) : Option Nat :=
  match scheme with
  | "http" => some 80
  | "ws" => some 80
  | "https" => some 443
  | "wss" => some 443
  | "ftp" => some 21
  | _ => none

def isSlash (special : Bool) (c : Char) : Bool := c = '/' || (special && c = '\\')

def cleaned (s : List Char) : List Char :=
  let outer := s.dropWhile (·.toNat ≤ 0x20)
  let inner := (outer.reverse.dropWhile (·.toNat ≤ 0x20)).reverse
  inner.filter fun c => c != '\t' && c != '\n' && c != '\r'

def splitScheme? (s : List Char) : Option (String × List Char) :=
  let name := s.takeWhile fun c => c.isAlphanum || c = '+' || c = '-' || c = '.'
  match name, s.dropWhile (fun c => c.isAlphanum || c = '+' || c = '-' || c = '.') with
  | c :: _, ':' :: rest => if c.isAlpha then some (.ofList (name.map Char.toLower), rest) else none
  | _, _ => none

def isDriveLetter (s : List Char) : Bool :=
  match s with
  | [c, d] => c.isAlpha && (d = ':' || d = '|')
  | _ => false

def isNormalDrive (name : String) : Bool :=
  match name.toList with
  | [c, ':'] => c.isAlpha
  | _ => false

def cutSegments (special : Bool) (s : List Char) : List (List Char) :=
  s.foldr (fun c parts =>
    if isSlash special c then [] :: parts
    else match parts with
      | [] => [[c]]
      | part :: rest => (c :: part) :: rest) [[]]

def undot : List Char → List Char
  | '%' :: '2' :: 'e' :: rest => '.' :: undot rest
  | '%' :: '2' :: 'E' :: rest => '.' :: undot rest
  | c :: rest => c :: undot rest
  | [] => []

def shorten (file : Bool) (path : List String) : List String :=
  match path with
  | [only] => if file && isNormalDrive only then path else []
  | _ => path.dropLast

/-- Adds the segments to a path, resolving dots. A dot at the very end leaves a slash. -/
def resolveSegments (file : Bool) (path : List String) : List (List Char) → List String
  | [] => path
  | seg :: rest =>
    let last := rest.isEmpty
    if undot seg = ['.', '.'] then
      let path := shorten file path
      resolveSegments file (if last then path ++ [""] else path) rest
    else if undot seg = ['.'] then
      resolveSegments file (if last then path ++ [""] else path) rest
    else
      let name := match seg with
        | [c, _] => if file && path.isEmpty && isDriveLetter seg then [c, ':'] else percentEncode pathSet seg
        | _ => percentEncode pathSet seg
      resolveSegments file (path ++ [.ofList name]) rest

def dropEmptyLeading : List String → List String
  | "" :: next :: rest => dropEmptyLeading (next :: rest)
  | path => path

def segmentsOf (scheme : String) (s : List Char) : List String :=
  let file := scheme = "file"
  let path := resolveSegments file [] (cutSegments (isSpecial scheme) s)
  if file then dropEmptyLeading path else path

def splitTail (s : List Char) : List Char × Option (List Char) × Option (List Char) :=
  let path := s.takeWhile fun c => c != '?' && c != '#'
  match s.dropWhile fun c => c != '?' && c != '#' with
  | '?' :: rest =>
    let query := rest.takeWhile (· != '#')
    match rest.dropWhile (· != '#') with
    | '#' :: fragment => (path, some query, some fragment)
    | _ => (path, some query, none)
  | '#' :: fragment => (path, none, some fragment)
  | _ => (path, none, none)

def assemble (scheme : String) (authority : Option Authority) (trail : Trail)
    (query fragment : Option (List Char)) : Uri :=
  let set := if isSpecial scheme then specialQuerySet else querySet
  { scheme, authority, trail
    query := query.map fun q => .ofList (percentEncode set q)
    fragment := fragment.map fun f => .ofList (percentEncode fragmentSet f) }

def nobody (host : Host) : Authority := ⟨"", none, host, none⟩

def authorityText (special : Bool) (s : List Char) : List Char × List Char :=
  let ends (c : Char) := isSlash special c || c = '?' || c = '#'
  (s.takeWhile (!ends ·), s.dropWhile (!ends ·))

def splitUser (s : List Char) : Option (List Char) × List Char :=
  if s.contains '@' then
    let back := s.reverse.takeWhile (· != '@')
    let front := (s.reverse.dropWhile (· != '@')).drop 1
    (some front.reverse, back.reverse)
  else (none, s)

def splitPort (s : List Char) : List Char × Option (List Char) :=
  let rec go (inside : Bool) : List Char → List Char × Option (List Char)
    | [] => ([], none)
    | c :: rest =>
      if c = ':' ∧ !inside then ([], some rest)
      else
        let (host, port) := go (if c = '[' then true else if c = ']' then false else inside) rest
        (c :: host, port)
  go false s

def port? (scheme : String) (s : List Char) : Option (Option Nat) :=
  if s.isEmpty then some none
  else do
    let n ← numeral? 10 s
    if 65535 < n then none else some (if defaultPort? scheme = some n then none else some n)

def authority? (scheme : String) (s : List Char) : Option Authority := do
  let special := isSpecial scheme
  let (user, rest) := splitUser s
  let (hostText, portText) := splitPort rest
  if hostText.isEmpty ∧ (special ∨ portText.isSome ∨ user.isSome) then none
  else
    let host ← if special then host? hostText else opaqueHost? hostText
    let port ← match portText with
      | some p => port? scheme p
      | none => some none
    let encode (t : List Char) : String := .ofList (percentEncode userSet t)
    match user with
    | none => some ⟨"", none, host, port⟩
    | some user =>
      let name := user.takeWhile (· != ':')
      let password := (user.dropWhile (· != ':')).drop 1
      some ⟨encode name, if password.isEmpty then none else some (encode password), host, port⟩

def afterDoubleSlash? (scheme : String) (s : List Char) : Option Uri := do
  let special := isSpecial scheme
  let (authorityPart, rest) := authorityText special s
  let authority ← authority? scheme authorityPart
  let (path, query, fragment) := splitTail rest
  let segments := match path with
    | [] => if special then [""] else []
    | _ :: path => segmentsOf scheme path
  pure (assemble scheme (some authority) (.segments segments) query fragment)

def file? (s : List Char) : Option Uri := do
  let make (host : Host) (rest : List Char) : Uri :=
    let (path, query, fragment) := splitTail rest
    let path := match path with
      | c :: more => if isSlash true c then more else path
      | [] => []
    assemble "file" (some (nobody host)) (.segments (segmentsOf "file" path)) query fragment
  match s with
  | a :: b :: rest =>
    if isSlash true a && isSlash true b then
      let (hostText, after) := authorityText true rest
      if isDriveLetter hostText then pure (make .empty rest)
      else if hostText.isEmpty then pure (make .empty after)
      else
        let host ← host? hostText
        pure (make (if host = .domain "localhost" then .empty else host) after)
    else pure (make .empty s)
  | _ => pure (make .empty s)

def parse? (input : String) : Option Uri := do
  let (scheme, rest) ← splitScheme? (cleaned input.toList)
  if scheme = "file" then file? rest
  else if isSpecial scheme then afterDoubleSlash? scheme (rest.dropWhile (isSlash true))
  else match rest with
    | '/' :: '/' :: rest => afterDoubleSlash? scheme rest
    | '/' :: more =>
      let (path, query, fragment) := splitTail more
      pure (assemble scheme none (.segments (segmentsOf scheme path)) query fragment)
    | _ =>
      let (path, query, fragment) := splitTail rest
      pure (assemble scheme none (.opaquePath (.ofList (percentEncode [] path))) query fragment)

end ScriptCheck.Uri
