/-! Cutting a text at every occurrence of one character. -/

namespace ScriptCheck.Text

def pushPiece (sep c : Char) (pieces : List (List Char)) : List (List Char) :=
  if c = sep then [] :: pieces
  else match pieces with
    | [] => [[c]]
    | piece :: rest => (c :: piece) :: rest

def pieces (sep : Char) (s : List Char) : List (List Char) := s.foldr (pushPiece sep) [[]]

def split (sep : Char) (s : String) : List String := (pieces sep s.toList).map String.ofList

end ScriptCheck.Text
