import ScriptCheck.Decimal.Binary64

/-! The fewest decimal digits that read back as a given floating point number, and the text
made of them. -/

namespace ScriptCheck.Binary64

structure Interval where
  low : Nat
  value : Nat
  high : Nat
  den : Nat
  closed : Bool

/-- The reals that round to a number. Below a power of two the gap is half as wide. -/
def interval (x : Binary64) : Interval :=
  let narrow := x.mantissa = hidden ∧ -1074 < x.exponent
  let low := if narrow then 4 * x.mantissa - 1 else 4 * x.mantissa - 2
  let (num, den) := if 0 ≤ x.exponent then (Nat.pow 2 x.exponent.toNat, 4)
    else (1, 4 * Nat.pow 2 (-x.exponent).toNat)
  { low := low * num, value := 4 * x.mantissa * num, high := (4 * x.mantissa + 2) * num, den,
    closed := x.mantissa % 2 = 0 }

def Interval.holds (i : Interval) (digits : Nat) (power : Int) : Bool :=
  let (n, d) := if 0 ≤ power then (digits * Nat.pow 10 power.toNat * i.den, 1)
    else (digits * i.den, Nat.pow 10 (-power).toNat)
  if i.closed then i.low * d ≤ n && n ≤ i.high * d else i.low * d < n && n < i.high * d

/-- The neighbours of the value on the grid of multiples of `10 ^ power` that lie in the
interval, the nearer one first. -/
def Interval.onGrid (i : Interval) (power : Int) : List Nat :=
  let (n, d) := if 0 ≤ power then (i.value, i.den * Nat.pow 10 power.toNat)
    else (i.value * Nat.pow 10 (-power).toNat, i.den)
  let q := n / d
  let nearer := if 2 * (n % d) < d ∨ (2 * (n % d) = d ∧ q % 2 = 0) then [q, q + 1] else [q + 1, q]
  nearer.filter fun k => k != 0 && i.holds k power

def leadingPower (num den : Nat) : Int :=
  let estimate : Int := (((num.log2 : Int) - den.log2) * 30103) / 100000
  let reaches (k : Int) : Bool := if 0 ≤ k then den * Nat.pow 10 k.toNat ≤ num
    else den ≤ num * Nat.pow 10 (-k).toNat
  if reaches (estimate + 1) then estimate + 1
  else if reaches estimate then estimate
  else estimate - 1

def shortest (x : Binary64) : Nat × Int :=
  let i := x.interval
  let top := leadingPower i.value i.den
  let tries := (List.range 18).map fun (n : Nat) => top - (n : Int)
  match tries.findSome? fun p => (i.onGrid p).head?.map (·, p) with
  | some found => found
  | none => (i.value, 0)

def dropZeros : Nat → Nat → Int → Nat × Int
  | 0, n, p => (n, p)
  | fuel + 1, n, p => if n % 10 = 0 then dropZeros fuel (n / 10) (p + 1) else (n, p)

def exponentText (e : Int) : List Char :=
  let digits := Nat.toDigits 10 e.natAbs
  'e' :: (if e < 0 then '-' else '+') :: List.replicate (2 - digits.length) '0' ++ digits

/-- Positional from 10^-4 up to 10^16, with a fraction always shown; otherwise one digit,
its fraction and an exponent. -/
def toText (x : Binary64) : String :=
  let sign := if x.negative then "-" else ""
  if x.mantissa = 0 then sign ++ "0.0"
  else
    let (n, power) := let (n, p) := x.shortest; dropZeros 20 n p
    let digits := Nat.toDigits 10 n
    let point : Int := digits.length + power
    let zeros (k : Int) := List.replicate k.toNat '0'
    sign ++ String.ofList (
      if 0 ≤ power ∧ point ≤ 16 then digits ++ zeros power ++ ['.', '0']
      else if 0 < point ∧ point ≤ 16 then digits.take point.toNat ++ '.' :: digits.drop point.toNat
      else if -4 < point ∧ point ≤ 0 then '0' :: '.' :: zeros (-point) ++ digits
      else
        let head := match digits with
          | [d] => [d]
          | d :: rest => d :: '.' :: rest
          | [] => []
        head ++ exponentText (point - 1))

end ScriptCheck.Binary64
