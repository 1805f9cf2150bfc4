/-
**Edit scripts between two lists of lines.**

* `Edit` — keep a line, remove one of the old lines, or add one of the new lines.
* `script` — a script from the old lines to the new lines that keeps as many lines as possible. Where
  a removal and an addition are equally good, the removal comes first.

The script is found from the ends of the lists: `Alignment` is the best script for a pair of suffixes
with the number of lines it keeps, and `row` derives the alignments of one more old line, with every
suffix of the new lines, from those without it.
-/

namespace SinglePath.Diff

/-- One step of an edit script. -/
inductive Edit where
  /-- A line of both texts. -/
  | keep (line : String)
  /-- A line of the old text only. -/
  | remove (line : String)
  /-- A line of the new text only. -/
  | add (line : String)
  deriving DecidableEq, Repr, Inhabited

namespace Edit

/-- The line that an edit is about. -/
def line : Edit → String
  | keep line | remove line | add line => line

/-- Whether an edit changes anything. -/
def isChange : Edit → Bool
  | keep _ => false
  | remove _ | add _ => true

/-- Whether the line of an edit is in the old text. -/
def inOld : Edit → Bool
  | keep _ | remove _ => true
  | add _ => false

/-- Whether the line of an edit is in the new text. -/
def inNew : Edit → Bool
  | keep _ | add _ => true
  | remove _ => false

end Edit

/-- A script with the number of lines it keeps. -/
structure Alignment where
  /-- How many lines the script keeps. -/
  kept : Nat
  /-- The script. -/
  edits : List Edit
  deriving Inhabited

namespace Alignment

/-- One more line, of both texts. -/
def keep (line : String) (a : Alignment) : Alignment :=
  ⟨a.kept + 1, .keep line :: a.edits⟩

/-- One more line of the old text. -/
def remove (line : String) (a : Alignment) : Alignment :=
  ⟨a.kept, .remove line :: a.edits⟩

/-- One more line of the new text. -/
def add (line : String) (a : Alignment) : Alignment :=
  ⟨a.kept, .add line :: a.edits⟩

end Alignment

/-- The alignments of no old line with every suffix of the new lines, the longest suffix first. -/
def lastRow : List String → List Alignment
  | [] => [⟨0, []⟩]
  | line :: rest =>
    match lastRow rest with
    | [] => []
    | next :: row => next.add line :: next :: row

/-- The alignments of `old` and the lines below it with every suffix of the new lines, from those of
the lines below. -/
def row (old : String) : List String → List Alignment → List Alignment
  | [], below :: _ => [below.remove old]
  | new :: news, below :: diagonal :: rest =>
    match row old news (diagonal :: rest) with
    | [] => []
    | right :: others =>
      let best :=
        if old = new then diagonal.keep old
        else if right.kept ≤ below.kept then below.remove old
        else right.add new
      best :: right :: others
  | _, _ => []

/-- The alignments of the old lines with every suffix of the new lines. -/
def table (old new : List String) : List Alignment :=
  old.foldr (fun line below => row line new below) (lastRow new)

/-- A script from the old lines to the new ones that keeps as many lines as possible. -/
def script (old new : List String) : List Edit :=
  match table old new with
  | [] => []
  | best :: _ => best.edits

end SinglePath.Diff
