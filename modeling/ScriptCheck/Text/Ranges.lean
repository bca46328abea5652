/-! Sets of characters given by ranges of code points. -/

namespace ScriptCheck.Text

abbrev CodeRanges := List (Nat × Nat)

def CodeRanges.covers (ranges : CodeRanges) (c : Char) : Bool :=
  ranges.any fun (first, last) => first ≤ c.toNat && c.toNat ≤ last

end ScriptCheck.Text
