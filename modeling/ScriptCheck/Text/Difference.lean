import ScriptCheck.Text.Lines

/-! Where two texts begin to differ, line by line. -/

namespace ScriptCheck.Text

/-- The first of two texts' lines, counted from `line`, at which they differ or one of them ends.
Texts of the same lines count as different from the start. -/
def differenceFrom (line : Nat) : List (List Char) → List (List Char) → Nat
  | x :: xs, y :: ys => if x = y then differenceFrom (line + 1) xs ys else line
  | [], [] => 1
  | _, _ => line

def firstDifferingLine (a b : String) : Nat :=
  differenceFrom 1 (splitLines a.toList) (splitLines b.toList)

end ScriptCheck.Text
