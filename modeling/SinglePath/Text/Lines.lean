/-
**Lines of a text.**

* `lines` — every newline ends a line, a carriage return right before it belongs to the ending, and
  what follows the last newline is a line of its own unless it is empty. So a text without newline
  keeps its carriage returns, and the empty text has no lines.
-/

import SinglePath.Text.Pieces

namespace SinglePath.Text

namespace Chars

/-- A line without the carriage return of its ending. -/
def dropReturn (cs : List Char) : List Char :=
  if cs.getLast? = some '\r' then cs.dropLast else cs

/-- The lines of a list of pieces; only the last piece has no newline after it. -/
def linesOfPieces : List (List Char) → List (List Char)
  | [] => []
  | [last] => if last.isEmpty then [] else [last]
  | piece :: rest => dropReturn piece :: linesOfPieces rest

/-- The lines of a text. -/
def lines (cs : List Char) : List (List Char) :=
  linesOfPieces (pieces '\n' cs)

end Chars

/-- The lines of a text. -/
def lines (s : String) : List String :=
  (Chars.lines s.toList).map String.ofList

end SinglePath.Text
