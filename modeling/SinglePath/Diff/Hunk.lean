/-
**Hunks: the stretches of an edit script that are shown.**

* `spans` — every change with up to three edits of context on either side; stretches that touch or
  overlap are one.
* `Hunk` — a stretch with the number of old and of new lines before it.
* `hunks` — the hunks of a script, in order.
-/

import SinglePath.Diff.Script

namespace SinglePath.Diff

/-- How many unchanged lines are shown on either side of a change. -/
def context : Nat := 3

/-- A stretch of a script: the edits from `start` on, up to but not including `stop`. -/
structure Span where
  start : Nat
  stop : Nat
  deriving DecidableEq, Repr

/-- The positions of the changes of a script, the first edit at position `first`. -/
def changes (first : Nat) : List Edit → List Nat
  | [] => []
  | edit :: rest =>
    if edit.isChange then first :: changes (first + 1) rest else changes (first + 1) rest

/-- A change with its context, inside a script of `size` edits. -/
def Span.around (size position : Nat) : Span :=
  ⟨position - context, min (position + 1 + context) size⟩

/-- Joins a span with the ones after it, as long as they touch it. -/
def joinSpans (current : Span) : List Span → List Span
  | [] => [current]
  | next :: rest =>
    if next.start ≤ current.stop then joinSpans ⟨current.start, max current.stop next.stop⟩ rest
    else current :: joinSpans next rest

/-- The stretches of a script that are shown. -/
def spans (edits : List Edit) : List Span :=
  match (changes 0 edits).map (Span.around edits.length) with
  | [] => []
  | first :: rest => joinSpans first rest

/-- A stretch of a script that is shown. -/
structure Hunk where
  /-- How many lines of the old text come before. -/
  oldBefore : Nat
  /-- How many lines of the new text come before. -/
  newBefore : Nat
  /-- The edits of the stretch. -/
  edits : List Edit
  deriving DecidableEq, Repr

namespace Hunk

/-- How many lines of the old text the hunk covers. -/
def oldLength (h : Hunk) : Nat :=
  h.edits.countP Edit.inOld

/-- How many lines of the new text the hunk covers. -/
def newLength (h : Hunk) : Nat :=
  h.edits.countP Edit.inNew

/-- Cuts a span out of a script. -/
def ofSpan (edits : List Edit) (span : Span) : Hunk :=
  let before := edits.take span.start
  { oldBefore := before.countP Edit.inOld
    newBefore := before.countP Edit.inNew
    edits := (edits.drop span.start).take (span.stop - span.start) }

end Hunk

/-- The hunks of a script. -/
def hunks (edits : List Edit) : List Hunk :=
  (spans edits).map (Hunk.ofSpan edits)

end SinglePath.Diff
