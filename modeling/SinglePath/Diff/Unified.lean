/-
**Unified diffs.**

* `unified` — the changes from one text to another: two label lines, then every hunk under a line that
  gives its place and its length in both texts. Texts with the same lines have an empty diff.
-/

import SinglePath.Diff.Hunk
import SinglePath.Text.Decimal
import SinglePath.Text.Lines

namespace SinglePath.Diff

/-- The character in front of a line of a hunk. -/
def Edit.marker : Edit → String
  | keep _ => " "
  | remove _ => "-"
  | add _ => "+"

/-- An edit as a line of a hunk. -/
def Edit.render (edit : Edit) : String :=
  edit.marker ++ edit.line ++ "\n"

/-- Where a side of a hunk begins: its first line, counted from one, or the line before it when the
side is empty. -/
def startLine (before length : Nat) : Nat :=
  if length = 0 then before else before + 1

/-- A side of a hunk as start and length. -/
def renderRange (before length : Nat) : String :=
  Text.Decimal.ofNat (startLine before length) ++ "," ++ Text.Decimal.ofNat length

/-- The line above a hunk. -/
def Hunk.header (h : Hunk) : String :=
  "@@ -" ++ renderRange h.oldBefore h.oldLength ++ " +" ++ renderRange h.newBefore h.newLength ++
    " @@\n"

/-- A hunk as text. -/
def Hunk.render (h : Hunk) : String :=
  h.header ++ String.join (h.edits.map Edit.render)

/-- The lines that name the two texts. -/
def labels (old new : String) : String :=
  "--- " ++ old ++ "\n+++ " ++ new ++ "\n"

/-- A diff of two texts, labelled. -/
def unified (old new oldLabel newLabel : String) : String :=
  match hunks (script (Text.lines old) (Text.lines new)) with
  | [] => ""
  | shown => labels oldLabel newLabel ++ String.join (shown.map Hunk.render)

end SinglePath.Diff
