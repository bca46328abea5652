/-! Floating point numbers of 64 bits as exact dyadic fractions, and the one nearest to a
given quotient. -/

namespace ScriptCheck

/-- The number `± mantissa * 2 ^ exponent`, with a mantissa below 2^53. -/
structure Binary64 where
  negative : Bool
  mantissa : Nat
  exponent : Int
deriving DecidableEq, Repr, Inhabited

namespace Binary64

def hidden : Nat := 4503599627370496

def roundDiv (num den : Nat) : Nat :=
  let q := num / den
  let r := num % den
  if 2 * r < den then q
  else if den < 2 * r then q + 1
  else if q % 2 = 0 then q else q + 1

def scaleDown (num den : Nat) (e : Int) : Nat × Nat :=
  if 0 ≤ e then (num, den * Nat.pow 2 e.toNat) else (num * Nat.pow 2 (-e).toNat, den)

def nearest? (negative : Bool) (num den : Nat) : Option Binary64 :=
  if num = 0 then some ⟨negative, 0, 0⟩
  else
    let e₀ : Int := (num.log2 : Int) - den.log2 - 53
    let full := let (n, d) := scaleDown num den e₀; hidden + hidden ≤ n / d
    let e := max (if full then e₀ + 1 else e₀) (-1074)
    let (n, d) := scaleDown num den e
    let m := roundDiv n d
    let (m, e) := if m = hidden + hidden then (hidden, e + 1) else (m, e)
    if 971 < e then none else some ⟨negative, m, e⟩

def ofDecimal? (negative : Bool) (digits : Nat) (power : Int) : Option Binary64 :=
  if digits = 0 then some ⟨negative, 0, 0⟩
  else if (400 : Int) < power then none
  else if power < -800 - (Nat.log2 digits : Int) then some ⟨negative, 0, 0⟩
  else if 0 ≤ power then nearest? negative (digits * Nat.pow 10 power.toNat) 1
  else nearest? negative digits (Nat.pow 10 (-power).toNat)

end Binary64
end ScriptCheck
