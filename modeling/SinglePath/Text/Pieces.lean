/-
**Dividing texts at a separator.**

* `pieces` — the parts of a text between the separators, one more than there are separators.
-/

namespace SinglePath.Text

namespace Chars

/-- One character to the left of pieces: a separator opens a piece, any other character joins the
first one. -/
def piecesStep (separator c : Char) (pieces : List (List Char)) : List (List Char) :=
  if c = separator then [] :: pieces
  else match pieces with
    | [] => [[c]]
    | piece :: rest => (c :: piece) :: rest

/-- The parts of a text between its separators. -/
def pieces (separator : Char) (cs : List Char) : List (List Char) :=
  cs.foldr (piecesStep separator) [[]]

end Chars

/-- The parts of a text between its separators. -/
def pieces (separator : Char) (s : String) : List String :=
  (Chars.pieces separator s.toList).map String.ofList

end SinglePath.Text
