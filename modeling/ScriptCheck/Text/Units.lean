/-! UTF-16 lengths, the unit in which editors count columns. -/

namespace ScriptCheck.Text

def unitWidth (c : Char) : Nat := if c.toNat < 0x10000 then 1 else 2

def units (s : List Char) : Nat := s.foldr (fun c n => unitWidth c + n) 0

def unitsOfFirst (s : List Char) (n : Nat) : Nat := units (s.take n)

end ScriptCheck.Text
