import ScriptCheck.Uri.Basic
import ScriptCheck.Text.Split
import ScriptCheck.Text.Punycode

/-! Reading the host of a URI: an address in one of several notations, or a name. -/

namespace ScriptCheck.Uri

def forbiddenInHost : List Char :=
  ['\x00', '\t', '\n', '\r', ' ', '#', '/', ':', '<', '>', '?', '@', '[', '\\', ']', '^', '|']

def isForbiddenInDomain (c : Char) : Bool :=
  c.toNat < 0x20 || c = '\x7f' || c = '%' || forbiddenInHost.contains c

def digitValue? (radix : Nat) (c : Char) : Option Nat :=
  let n := c.toNat
  let v := if 48 ≤ n ∧ n < 58 then n - 48 else if 97 ≤ n ∧ n < 123 then n - 87
    else if 65 ≤ n ∧ n < 91 then n - 55 else radix
  if v < radix then some v else none

def numeral? (radix : Nat) (s : List Char) : Option Nat :=
  s.foldlM (fun n c => (digitValue? radix c).map (radix * n + ·)) 0

def addressPart? (s : List Char) : Option Nat :=
  match s with
  | [] => none
  | '0' :: 'x' :: rest => numeral? 16 rest
  | '0' :: 'X' :: rest => numeral? 16 rest
  | '0' :: c :: rest => numeral? 8 (c :: rest)
  | _ => numeral? 10 s

def labels (s : List Char) : List (List Char) :=
  let parts := Text.pieces '.' s
  if 1 < parts.length && parts.getLast? = some [] then parts.dropLast else parts

def endsInNumber (s : List Char) : Bool :=
  match (labels s).getLast? with
  | none => false
  | some [] => false
  | some last => last.all (fun c => '0' ≤ c && c ≤ '9') || ((addressPart? last).isSome &&
      (match last with | '0' :: c :: _ => c = 'x' || c = 'X' | _ => false))

def ipv4? (s : List Char) : Option Nat := do
  let numbers ← (labels s).mapM addressPart?
  let last ← numbers.getLast?
  let leading := numbers.dropLast
  if 3 < leading.length ∨ leading.any (255 < ·) ∨ Nat.pow 256 (4 - leading.length) ≤ last then none
  else some (leading.foldr (fun part (sum : Nat × Nat) => (sum.1 + part * Nat.pow 256 (3 - sum.2), sum.2 - 1))
    (last, leading.length - 1)).1

def hexPiece? (s : List Char) : Option Nat :=
  if s.isEmpty ∨ 4 < s.length then none else numeral? 16 s

def quadPieces? (s : List Char) : Option (List Nat) := do
  let parts := Text.pieces '.' s
  let numbers ← parts.mapM fun p =>
    if p.isEmpty ∨ 3 < p.length ∨ (1 < p.length ∧ p.head? = some '0') then none else numeral? 10 p
  match numbers with
  | [a, b, c, d] => if [a, b, c, d].all (· < 256) then some [256 * a + b, 256 * c + d] else none
  | _ => none

def colonPieces? (s : List Char) : Option (List Nat) :=
  if s.isEmpty then some []
  else
    let parts := Text.pieces ':' s
    match parts.getLast? with
    | none => none
    | some last => do
      let leading ← parts.dropLast.mapM hexPiece?
      let final ← if last.contains '.' then quadPieces? last else (hexPiece? last).map ([·])
      pure (leading ++ final)

def splitGap : List Char → Option (List Char × List Char)
  | ':' :: ':' :: rest => some ([], rest)
  | c :: rest => (splitGap rest).map fun (a, b) => (c :: a, b)
  | [] => none

def ipv6? (s : List Char) : Option (List Nat) := do
  match splitGap s with
  | none =>
    let pieces ← colonPieces? s
    if pieces.length = 8 then some pieces else none
  | some (front, back) =>
    let front ← if front.contains '.' then none else colonPieces? front
    let back ← colonPieces? back
    if front.length + back.length ≤ 7 then
      some (front ++ List.replicate (8 - front.length - back.length) 0 ++ back)
    else none

def bracketed? (s : List Char) : Option (Option Host) :=
  match s with
  | '[' :: rest =>
    if rest.getLast? = some ']' then some ((ipv6? rest.dropLast).map .ipv6) else some none
  | _ => none

def opaqueHost? (s : List Char) : Option Host :=
  match bracketed? s with
  | some host => host
  | none =>
    if s.isEmpty then some .empty
    else if s.any forbiddenInHost.contains then none
    else some (.domain (.ofList (percentEncode [] s)))

def lowerAscii (c : Char) : Char := c.toLower

/-- The host of a special scheme: an address, or a domain name in lower case with its labels
in ASCII. -/
def host? (s : List Char) : Option Host :=
  match bracketed? s with
  | some host => host
  | none =>
    let name := Text.decodeLossy ⟨(decodedBytes (.ofList s)).toArray⟩
    let ascii := (Text.pieces '.' (name.toList.map lowerAscii)).map Text.asciiLabel
    let name := ['.'].intercalate ascii
    if name.isEmpty ∨ name.any isForbiddenInDomain then none
    else if endsInNumber name then (ipv4? name).map .ipv4
    else some (.domain (.ofList name))

end ScriptCheck.Uri
