/-! The lines of a text. A newline ends a line and takes one carriage return before it along;
what follows the last newline is a line of its own unless it is empty. -/

namespace ScriptCheck.Text

/-- Puts one character before lines already split. The flag tells whether those begin right
after this character with a newline. -/
def pushChar (c : Char) (rest : Bool × List (List Char)) : Bool × List (List Char) :=
  if c = '\n' then (true, [] :: rest.2)
  else if c = '\r' ∧ rest.1 then (false, rest.2)
  else match rest.2 with
    | [] => (false, [[c]])
    | line :: lines => (false, (c :: line) :: lines)

def splitLines (s : List Char) : List (List Char) := (s.foldr pushChar (false, [])).2

def lines (s : String) : List String := (splitLines s.toList).map String.ofList

end ScriptCheck.Text
