import ScriptCheck.Limits
import ScriptCheck.Decimal.Binary64
import ScriptCheck.Toml.Basic

/-! TOML values written without quotes or brackets: booleans, numbers, dates and times. Each
function judges a whole word. -/

namespace ScriptCheck.Toml

def isDecimal (c : Char) : Bool := '0' ≤ c && c ≤ '9'

def isHex (c : Char) : Bool := isDecimal c || ('a' ≤ c && c ≤ 'f') || ('A' ≤ c && c ≤ 'F')

def digitValue (c : Char) : Nat :=
  if isDecimal c then c.toNat - 48 else if 'a' ≤ c then c.toNat - 87 else c.toNat - 55

def digitRun? (valid : Char → Bool) : List Char → Option (List Char)
  | [] => none
  | [c] => if valid c then some [c] else none
  | c :: '_' :: rest => if valid c then (digitRun? valid rest).map (c :: ·) else none
  | c :: rest => if valid c then (digitRun? valid rest).map (c :: ·) else none

def numberOf (radix : Nat) (digits : List Char) : Nat :=
  digits.foldl (fun n c => radix * n + digitValue c) 0

def signedRun? (s : List Char) : Option (Bool × List Char) :=
  let (negative, body) := match s with
    | '-' :: rest => (true, rest)
    | '+' :: rest => (false, rest)
    | _ => (false, s)
  match digitRun? isDecimal body with
  | some digits => if digits.head? = some '0' ∧ 1 < body.length then none else some (negative, digits)
  | none => none

def fits64 (n : Int) : Option Int := if -(limit63 : Int) ≤ n ∧ n < limit63 then some n else none

def integer? (s : List Char) : Option Int :=
  let radix (r : Nat) (valid : Char → Bool) (rest : List Char) : Option Int :=
    (digitRun? valid rest).bind fun ds => fits64 (numberOf r ds)
  match s with
  | '0' :: 'x' :: rest => radix 16 isHex rest
  | '0' :: 'o' :: rest => radix 8 (fun c => '0' ≤ c && c ≤ '7') rest
  | '0' :: 'b' :: rest => radix 2 (fun c => c = '0' || c = '1') rest
  | _ => (signedRun? s).bind fun (negative, ds) =>
    let n : Int := numberOf 10 ds
    fits64 (if negative then -n else n)

def isExponentMark (c : Char) : Bool := c = 'e' || c = 'E'

def isFloat (s : List Char) : Bool :=
  let unsigned := match s with
    | '-' :: rest => rest
    | '+' :: rest => rest
    | _ => s
  if unsigned = "inf".toList ∨ unsigned = "nan".toList then true
  else
    let mantissa := s.takeWhile (!isExponentMark ·)
    let tail := s.dropWhile (!isExponentMark ·)
    let whole := mantissa.takeWhile (· != '.')
    let point := mantissa.dropWhile (· != '.')
    let exponent : Option Int := match tail with
      | [] => some 0
      | _ :: '-' :: rest => (digitRun? isDecimal rest).map fun ds => -(numberOf 10 ds : Int)
      | _ :: '+' :: rest => (digitRun? isDecimal rest).map fun ds => (numberOf 10 ds : Int)
      | _ :: rest => (digitRun? isDecimal rest).map fun ds => (numberOf 10 ds : Int)
    let fraction : Option (List Char) := match point with
      | [] => some []
      | _ :: rest => digitRun? isDecimal rest
    match signedRun? whole, fraction, exponent with
    | some (negative, ds), some fs, some e =>
      (!point.isEmpty || !tail.isEmpty)
        && (Binary64.ofDecimal? negative (numberOf 10 (ds ++ fs)) (e - fs.length)).isSome
    | _, _, _ => false

def twoDigits? (low high : Nat) (a b : Char) : Option Nat :=
  if isDecimal a && isDecimal b then
    let n := numberOf 10 [a, b]
    if low ≤ n ∧ n ≤ high then some n else none
  else none

def daysIn (year month : Nat) : Nat :=
  if month = 2 then
    if year % 4 = 0 ∧ (year % 100 ≠ 0 ∨ year % 400 = 0) then 29 else 28
  else if month = 4 ∨ month = 6 ∨ month = 9 ∨ month = 11 then 30
  else 31

def afterDate? : List Char → Option (List Char)
  | a :: b :: c :: d :: '-' :: e :: f :: '-' :: g :: h :: rest => do
    let year ← if [a, b, c, d].all isDecimal then some (numberOf 10 [a, b, c, d]) else none
    let month ← twoDigits? 1 12 e f
    let _ ← twoDigits? 1 (daysIn year month) g h
    pure rest
  | _ => none

def afterTime? : List Char → Option (List Char)
  | a :: b :: ':' :: c :: d :: ':' :: e :: f :: rest => do
    let _ ← twoDigits? 0 23 a b
    let _ ← twoDigits? 0 59 c d
    let _ ← twoDigits? 0 60 e f
    match rest with
    | '.' :: rest => if (rest.takeWhile isDecimal).isEmpty then none else pure (rest.dropWhile isDecimal)
    | _ => pure rest
  | _ => none

def isOffset : List Char → Bool
  | [] => true
  | [c] => c = 'Z' || c = 'z'
  | [s, a, b, ':', c, d] =>
    (s = '+' || s = '-') && (twoDigits? 0 23 a b).isSome && (twoDigits? 0 59 c d).isSome
  | _ => false

def isOffsetTime (s : List Char) : Bool :=
  match afterTime? s with
  | some rest => isOffset rest
  | none => false

def isTime (s : List Char) : Bool := afterTime? s = some []

def isDate (s : List Char) : Bool := afterDate? s = some []

def isDateTime (s : List Char) : Bool :=
  match afterDate? s with
  | some (c :: rest) => (c = 'T' || c = 't') && isOffsetTime rest
  | _ => false

def scalar? (s : List Char) : Option Toml :=
  if s = "true".toList then some (.boolean true)
  else if s = "false".toList then some (.boolean false)
  else match integer? s with
    | some n => some (.integer n)
    | none =>
      if isFloat s then some .float
      else if isDate s || isTime s || isDateTime s then some .date
      else none

end ScriptCheck.Toml
