/-! Labels of domain names in ASCII: characters past ASCII go into a suffix of Punycode. -/

namespace ScriptCheck.Text

def settleBias (k delta : Nat) : Nat :=
  if 455 < delta then settleBias (k + 36) (delta / 35) else k + 36 * delta / (delta + 38)
termination_by delta

def adaptBias (delta points : Nat) (first : Bool) : Nat :=
  let delta := if first then delta / 700 else delta / 2
  settleBias 0 (delta + delta / points)

def punycodeDigit (n : Nat) : Char := if n < 26 then Char.ofNat (97 + n) else Char.ofNat (22 + n)

def punycodeThreshold (k bias : Nat) : Nat :=
  if k ≤ bias then 1 else if bias + 26 ≤ k then 26 else k - bias

theorem punycodeThreshold_pos (k bias : Nat) : 0 < punycodeThreshold k bias := by
  unfold punycodeThreshold
  split
  · decide
  · split <;> omega

def variableDigits (bias k q : Nat) : List Char :=
  let t := punycodeThreshold k bias
  if q < t then [punycodeDigit q]
  else punycodeDigit (t + (q - t) % (36 - t)) :: variableDigits bias (k + 36) ((q - t) / (36 - t))
termination_by q
decreasing_by
  have positive := punycodeThreshold_pos k bias
  calc (q - punycodeThreshold k bias) / (36 - punycodeThreshold k bias)
      ≤ q - punycodeThreshold k bias := Nat.div_le_self ..
    _ < q := by omega

structure PunycodeState where
  delta : Nat
  bias : Nat
  handled : Nat
  out : List Char

def punycodePass (basic n : Nat) (label : List Nat) (state : PunycodeState) : PunycodeState :=
  label.foldl (fun s c =>
    if c < n then { s with delta := s.delta + 1 }
    else if c = n then
      { delta := 0, bias := adaptBias s.delta (s.handled + 1) (s.handled = basic),
        handled := s.handled + 1, out := s.out ++ variableDigits s.bias 36 s.delta }
    else s) state

def punycode (label : List Char) : List Char :=
  let codes := label.map Char.toNat
  let basic := label.filter (·.toNat < 128)
  let start := if basic.isEmpty then [] else basic ++ ['-']
  let later := (codes.filter (128 ≤ ·)).eraseDups.mergeSort
  let (state, _) := later.foldl (fun (s, n) m =>
    let s := { s with delta := s.delta + (m - n) * (s.handled + 1) }
    let s := punycodePass basic.length m codes s
    ({ s with delta := s.delta + 1 }, m + 1))
    (({ delta := 0, bias := 72, handled := basic.length, out := start } : PunycodeState), 128)
  state.out

def asciiLabel (label : List Char) : List Char :=
  if label.all (·.toNat < 128) then label else ['x', 'n', '-', '-'] ++ punycode label

end ScriptCheck.Text
