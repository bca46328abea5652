import ScriptCheck.Text.Utf8

/-! Uniform resource identifiers by their parts, percent encoding, and the text of a whole
identifier. -/

namespace ScriptCheck

namespace Uri

inductive Host where
  | empty
  | domain (name : String)
  | ipv4 (address : Nat)
  | ipv6 (pieces : List Nat)
deriving DecidableEq, Repr

structure Authority where
  username : String
  password : Option String
  host : Host
  port : Option Nat
deriving DecidableEq, Repr

/-- A path is opaque, or a list of segments each of which follows a slash. -/
inductive Trail where
  | opaquePath (text : String)
  | segments (names : List String)
deriving DecidableEq, Repr

end Uri

structure Uri where
  scheme : String
  authority : Option Uri.Authority
  trail : Uri.Trail
  query : Option String
  fragment : Option String
deriving DecidableEq, Repr

namespace Uri

def upperHex (n : Nat) : Char := if n < 10 then Char.ofNat (48 + n) else Char.ofNat (55 + n)

def encodeByte (b : UInt8) : List Char :=
  ['%', upperHex (b.toNat / 16), upperHex (b.toNat % 16)]

def percentEncode (listed : List Char) (s : List Char) : List Char :=
  s.flatMap fun c =>
    if c.toNat < 0x20 ∨ 0x7f ≤ c.toNat ∨ c ∈ listed then
      (String.singleton c).toUTF8.toList.flatMap encodeByte
    else [c]

def fragmentSet : List Char := [' ', '"', '<', '>', '\x60']

def pathSet : List Char := fragmentSet ++ ['#', '?', '\x7b', '\x7d']

def userSet : List Char := pathSet ++ ['/', ':', ';', '=', '@', '[', '\\', ']', '^', '|']

def querySet : List Char := [' ', '"', '#', '<', '>']

def specialQuerySet : List Char := querySet ++ ['\'']

def hexValue? (b : UInt8) : Option Nat :=
  let n := b.toNat
  if 48 ≤ n ∧ n < 58 then some (n - 48)
  else if 97 ≤ n ∧ n < 103 then some (n - 87)
  else if 65 ≤ n ∧ n < 71 then some (n - 55)
  else none

def percentDecode : List UInt8 → List UInt8
  | 37 :: a :: b :: rest =>
    match hexValue? a, hexValue? b with
    | some x, some y => .ofNat (16 * x + y) :: percentDecode rest
    | _, _ => 37 :: percentDecode (a :: b :: rest)
  | c :: rest => c :: percentDecode rest
  | [] => []

def decodedBytes (s : String) : List UInt8 := percentDecode s.toUTF8.toList

def longestZeros (pieces : List Nat) : Option (Nat × Nat) :=
  let runs := (List.range 8).map fun i => (i, ((pieces.drop i).takeWhile (· = 0)).length)
  let best := runs.foldl (fun (b : Nat × Nat) r => if b.2 < r.2 then r else b) (0, 0)
  if 2 ≤ best.2 then some best else none

def hexText (n : Nat) : String := .ofList (Nat.toDigits 16 n)

def Host.text : Host → String
  | .empty => ""
  | .domain name => name
  | .ipv4 n => ".".intercalate ([n / 16777216, n / 65536 % 256, n / 256 % 256, n % 256].map toString)
  | .ipv6 pieces =>
    let words (ps : List Nat) := ":".intercalate (ps.map hexText)
    match longestZeros pieces with
    | some (i, n) => "[" ++ words (pieces.take i) ++ "::" ++ words (pieces.drop (i + n)) ++ "]"
    | none => "[" ++ words pieces ++ "]"

def Authority.text (a : Authority) : String :=
  let user := if a.username = "" ∧ a.password.isNone then ""
    else a.username ++ (match a.password with | some p => ":" ++ p | none => "") ++ "@"
  user ++ a.host.text ++ (match a.port with | some p => ":" ++ toString p | none => "")

def path (u : Uri) : String :=
  match u.trail with
  | .opaquePath text => text
  | .segments names => String.join (names.map ("/" ++ ·))

def text (u : Uri) : String :=
  u.scheme ++ ":" ++ (match u.authority with | some a => "//" ++ a.text | none => "") ++ u.path
    ++ (match u.query with | some q => "?" ++ q | none => "")
    ++ (match u.fragment with | some f => "#" ++ f | none => "")

end Uri
end ScriptCheck
