/-! Spans of time, and their shortest text. -/

namespace ScriptCheck

structure Duration where
  nanos : Nat
deriving DecidableEq, Repr

namespace Duration

def ofMillis (ms : Nat) : Duration := ⟨ms * 1000000⟩

def fractionDigits (width n : Nat) : List Char :=
  let digits := Nat.toDigits 10 n
  let padded := List.replicate (width - digits.length) '0' ++ digits
  (padded.reverse.dropWhile (· = '0')).reverse

def inUnits (whole rest width : Nat) (unit : String) : String :=
  let fraction := fractionDigits width rest
  let point := if fraction.isEmpty then "" else "." ++ String.ofList fraction
  toString whole ++ point ++ unit

/-- In the largest unit of which there is one at least, from nanoseconds to seconds. -/
def text (d : Duration) : String :=
  let n := d.nanos
  if 1000000000 ≤ n then inUnits (n / 1000000000) (n % 1000000000) 9 "s"
  else if 1000000 ≤ n then inUnits (n / 1000000) (n % 1000000) 6 "ms"
  else if 1000 ≤ n then inUnits (n / 1000) (n % 1000) 3 "µs"
  else inUnits n 0 0 "ns"

end Duration
end ScriptCheck
