/-
**Patches: applying the hunks of a script, and undoing them.**

A patch is a list of sections, each some edits with the lines that they claim to stand at. `Section.apply`
is strict: a section that miscounts its edits, stands at another place than it claims, overlaps the
section before it, or reads another line than is there, is refused.

* `Section.apply_ofSpan` — a stretch of a script with only kept lines before it is accepted, and leads
  past that stretch;
* `apply_hunks` — the hunks of a script make its new lines of its old lines;
* `apply_reverse_hunks` — the reversed hunks make its old lines of its new lines.
-/

import SinglePath.Diff.Unified
import SinglePath.Proofs.Diff.Spans

namespace SinglePath.Diff

/-! ### The applier -/

/-- A section of a patch: edits, and where each side of them begins and how long it is. -/
structure Section where
  oldStart : Nat
  oldLength : Nat
  newStart : Nat
  newLength : Nat
  edits : List Edit
  deriving DecidableEq, Repr

/-- A patch: the names of the two texts, and its sections. -/
structure Patch where
  oldLabel : String
  newLabel : String
  sections : List Section
  deriving DecidableEq, Repr

/-- How far a patch is applied: the number of old lines that are used up, those that are left, and the
lines made so far. -/
structure Applied where
  oldDone : Nat
  rest : List String
  made : List String
  deriving DecidableEq, Repr

/-- Copies old lines. -/
def Applied.copy (p : Applied) (count : Nat) : Applied :=
  ⟨p.oldDone + count, p.rest.drop count, p.made ++ p.rest.take count⟩

/-- Applies an edit: a line that is kept or removed has to be the next old line. -/
def Applied.edit (p : Applied) : Edit → Option Applied
  | .keep line =>
    if p.rest.head? = some line then some ⟨p.oldDone + 1, p.rest.tail, p.made ++ [line]⟩ else none
  | .remove line =>
    if p.rest.head? = some line then some ⟨p.oldDone + 1, p.rest.tail, p.made⟩ else none
  | .add line => some ⟨p.oldDone, p.rest, p.made ++ [line]⟩

/-- The number of lines before a side of a section. A side begins with its first line, counted from
one; an empty side is given by the line before it. -/
def linesBefore (start : Nat) : Nat → Option Nat
  | 0 => some start
  | _ + 1 => if start = 0 then none else some (start - 1)

/-- Applies a section: its sides have the lengths and the places that it gives, and the lines between
the section before it and this one are copied. -/
def Section.apply (p : Applied) (s : Section) : Option Applied :=
  match linesBefore s.oldStart s.oldLength, linesBefore s.newStart s.newLength with
  | some oldBefore, some newBefore =>
    if s.edits.countP Edit.inOld = s.oldLength ∧ s.edits.countP Edit.inNew = s.newLength ∧
        p.oldDone ≤ oldBefore ∧ oldBefore - p.oldDone ≤ p.rest.length ∧
        p.made.length + (oldBefore - p.oldDone) = newBefore then
      s.edits.foldlM Applied.edit (p.copy (oldBefore - p.oldDone))
    else none
  | _, _ => none

/-- Applies a patch to lines; what is left behind the last section is copied. -/
def Patch.apply (patch : Patch) (lines : List String) : Option (List String) :=
  (patch.sections.foldlM Section.apply ⟨0, lines, []⟩).map fun p => p.made ++ p.rest

/-- The edit that undoes an edit. -/
def Edit.reverse : Edit → Edit
  | keep line => keep line
  | remove line => add line
  | add line => remove line

/-- The section with additions for removals and the other way round, and its two sides swapped. -/
def Section.reverse (s : Section) : Section :=
  ⟨s.newStart, s.newLength, s.oldStart, s.oldLength, s.edits.map Edit.reverse⟩

/-- The patch that undoes a patch. -/
def Patch.reverse (patch : Patch) : Patch :=
  ⟨patch.newLabel, patch.oldLabel, patch.sections.map Section.reverse⟩

/-- A hunk with the places that its header gives. -/
def Section.ofHunk (h : Hunk) : Section :=
  ⟨startLine h.oldBefore h.oldLength, h.oldLength, startLine h.newBefore h.newLength, h.newLength,
    h.edits⟩

/-! ### A section of a script -/

theorem linesBefore_startLine (before length : Nat) :
    linesBefore (startLine before length) length = some before := by
  unfold startLine
  cases length with
  | zero => rfl
  | succ length =>
      rw [if_neg (Nat.succ_ne_zero length), linesBefore, if_neg (Nat.succ_ne_zero before)]
      rfl

/-- Edits are accepted where their old lines stand next. -/
theorem foldlM_edit (edits : List Edit) (p : Applied) (rest : List String)
    (next : p.rest = oldLines edits ++ rest) :
    edits.foldlM Applied.edit p =
      some ⟨p.oldDone + (oldLines edits).length, rest, p.made ++ newLines edits⟩ := by
  induction edits generalizing p with
  | nil =>
      rw [oldLines_nil, List.nil_append] at next
      rw [← next, newLines_nil, List.append_nil]
      rfl
  | cons head edits ih =>
      rw [List.foldlM_cons]
      cases head with
      | keep line =>
          rw [oldLines_keep, List.cons_append] at next
          rw [Applied.edit, next, if_pos (List.head?_cons ..), Option.bind_eq_bind,
            Option.bind_some, ih _ rfl]
          simp only [oldLines_keep, newLines_keep, List.length_cons, List.append_assoc,
            List.singleton_append, Nat.add_assoc, Nat.add_comm 1]
      | remove line =>
          rw [oldLines_remove, List.cons_append] at next
          rw [Applied.edit, next, if_pos (List.head?_cons ..), Option.bind_eq_bind,
            Option.bind_some, ih _ rfl]
          simp only [oldLines_remove, newLines_remove, List.length_cons, Nat.add_assoc,
            Nat.add_comm 1]
      | add line =>
          rw [oldLines_add] at next
          rw [Applied.edit, Option.bind_eq_bind, Option.bind_some,
            ih ⟨p.oldDone, p.rest, p.made ++ [line]⟩ next]
          simp only [oldLines_add, newLines_add, List.append_assoc, List.singleton_append]

/-- Where a patch stands when the first edits of its script are done. -/
def Applied.upTo (edits : List Edit) (done : Nat) : Applied :=
  ⟨(oldLines (edits.take done)).length, oldLines (edits.drop done), newLines (edits.take done)⟩

/-- Copying the lines of a stretch without changes leads past it. -/
theorem Applied.copy_at {edits : List Edit} {done start : Nat} (ordered : done ≤ start)
    (unchanged : Unchanged (between edits done start)) :
    (Applied.upTo edits done).copy (oldLines (between edits done start)).length =
      Applied.upTo edits start := by
  unfold Applied.upTo Applied.copy
  rw [← take_append_between edits ordered, ← between_append_drop edits ordered, oldLines_append,
    oldLines_append, newLines_append, List.length_append, List.drop_left, List.take_left,
    unchanged.oldLines_eq_newLines]

/-- Applying the edits of a stretch leads past it. -/
theorem foldlM_edit_between {edits : List Edit} {start stop : Nat} (ordered : start ≤ stop) :
    (between edits start stop).foldlM Applied.edit (Applied.upTo edits start) =
      some (Applied.upTo edits stop) := by
  rw [foldlM_edit _ _ (oldLines (edits.drop stop))]
  · unfold Applied.upTo
    rw [← take_append_between edits ordered, oldLines_append, newLines_append, List.length_append]
  · unfold Applied.upTo
    rw [← oldLines_append, between_append_drop edits ordered]

/-- **A stretch of a script is accepted** when only kept lines were left out before it, and leads past
that stretch. -/
theorem Section.apply_ofSpan {edits : List Edit} {done : Nat} {span : Span}
    (behind : done ≤ span.start) (proper : span.start ≤ span.stop)
    (unchanged : Unchanged (between edits done span.start)) :
    Section.apply (Applied.upTo edits done) (Section.ofHunk (Hunk.ofSpan edits span)) =
      some (Applied.upTo edits span.stop) := by
  have cut : (Hunk.ofSpan edits span).edits = between edits span.start span.stop := rfl
  have oldBefore : (Hunk.ofSpan edits span).oldBefore =
      (Applied.upTo edits done).oldDone + (oldLines (between edits done span.start)).length := by
    show (edits.take span.start).countP Edit.inOld = _
    rw [← length_oldLines, ← take_append_between edits behind, oldLines_append,
      List.length_append]
    rfl
  have newBefore : (Hunk.ofSpan edits span).newBefore =
      (Applied.upTo edits done).made.length + (oldLines (between edits done span.start)).length := by
    show (edits.take span.start).countP Edit.inNew = _
    rw [← length_newLines, ← take_append_between edits behind, newLines_append,
      List.length_append, unchanged.oldLines_eq_newLines]
    rfl
  have enough : (oldLines (between edits done span.start)).length ≤
      (Applied.upTo edits done).rest.length := by
    show _ ≤ (oldLines (edits.drop done)).length
    rw [← between_append_drop edits behind, oldLines_append, List.length_append]
    exact Nat.le_add_right _ _
  unfold Section.apply Section.ofHunk
  simp only [linesBefore_startLine, oldBefore, newBefore, Nat.add_sub_cancel_left]
  rw [if_pos ⟨rfl, rfl, Nat.le_add_right _ _, enough, trivial⟩, Applied.copy_at behind unchanged, cut,
    foldlM_edit_between proper]

/-! ### All sections of a script -/

/-- Spans that cover a script lead to a place behind which only kept lines are left. -/
theorem Covers.foldlM_apply {edits : List Edit} {spans : List Span} {done : Nat}
    (covers : Covers edits done spans) :
    ∃ stop, (spans.map fun span => Section.ofHunk (Hunk.ofSpan edits span)).foldlM Section.apply
        (Applied.upTo edits done) = some (Applied.upTo edits stop) ∧
      Unchanged (edits.drop stop) := by
  induction spans generalizing done with
  | nil => exact ⟨done, rfl, covers⟩
  | cons span spans ih =>
      obtain ⟨behind, proper, -, unchanged, covers⟩ := covers
      obtain ⟨stop, applied, kept⟩ := ih covers
      refine ⟨stop, ?_, kept⟩
      rw [List.map_cons, List.foldlM_cons, Section.apply_ofSpan behind proper unchanged]
      exact applied

/-- The patch of a script. -/
def Patch.ofScript (oldLabel newLabel : String) (edits : List Edit) : Patch :=
  ⟨oldLabel, newLabel, (hunks edits).map Section.ofHunk⟩

/-- **The hunks of a script make its new lines of its old lines.** -/
theorem apply_hunks (oldLabel newLabel : String) (edits : List Edit) :
    (Patch.ofScript oldLabel newLabel edits).apply (oldLines edits) = some (newLines edits) := by
  obtain ⟨stop, applied, kept⟩ := (covers_spans edits).foldlM_apply
  unfold Patch.apply Patch.ofScript hunks
  rw [List.map_map]
  have start : (⟨0, oldLines edits, []⟩ : Applied) = Applied.upTo edits 0 := rfl
  rw [start, show (Section.ofHunk ∘ Hunk.ofSpan edits) =
    fun span => Section.ofHunk (Hunk.ofSpan edits span) from rfl, applied, Option.map_some]
  show some (newLines (edits.take stop) ++ oldLines (edits.drop stop)) = some (newLines edits)
  rw [kept.oldLines_eq_newLines, ← newLines_append, List.take_append_drop]

/-! ### Undoing a script -/

@[simp] theorem Edit.line_reverse (edit : Edit) : edit.reverse.line = edit.line := by
  cases edit <;> rfl

@[simp] theorem Edit.inOld_reverse (edit : Edit) : edit.reverse.inOld = edit.inNew := by
  cases edit <;> rfl

@[simp] theorem Edit.inNew_reverse (edit : Edit) : edit.reverse.inNew = edit.inOld := by
  cases edit <;> rfl

@[simp] theorem Edit.isChange_reverse (edit : Edit) : edit.reverse.isChange = edit.isChange := by
  cases edit <;> rfl

theorem countP_inOld_reverse (edits : List Edit) :
    (edits.map Edit.reverse).countP Edit.inOld = edits.countP Edit.inNew := by
  rw [List.countP_map]
  exact List.countP_congr fun edit _ => by rw [Function.comp_apply, Edit.inOld_reverse]

theorem countP_inNew_reverse (edits : List Edit) :
    (edits.map Edit.reverse).countP Edit.inNew = edits.countP Edit.inOld := by
  rw [List.countP_map]
  exact List.countP_congr fun edit _ => by rw [Function.comp_apply, Edit.inNew_reverse]

theorem oldLines_reverse (edits : List Edit) :
    oldLines (edits.map Edit.reverse) = newLines edits := by
  unfold oldLines newLines
  rw [List.filter_map, List.map_map]
  simp only [Function.comp_def, Edit.inOld_reverse, Edit.line_reverse]

theorem newLines_reverse (edits : List Edit) :
    newLines (edits.map Edit.reverse) = oldLines edits := by
  unfold oldLines newLines
  rw [List.filter_map, List.map_map]
  simp only [Function.comp_def, Edit.inNew_reverse, Edit.line_reverse]

theorem changes_reverse (first : Nat) (edits : List Edit) :
    changes first (edits.map Edit.reverse) = changes first edits := by
  induction edits generalizing first with
  | nil => rfl
  | cons head edits ih =>
      rw [List.map_cons, changes, changes, Edit.isChange_reverse, ih]

/-- The same stretches are shown of a script and of the script that undoes it. -/
theorem spans_reverse (edits : List Edit) : spans (edits.map Edit.reverse) = spans edits := by
  unfold spans
  rw [changes_reverse, List.length_map]

theorem Section.reverse_ofSpan (edits : List Edit) (span : Span) :
    (Section.ofHunk (Hunk.ofSpan edits span)).reverse =
      Section.ofHunk (Hunk.ofSpan (edits.map Edit.reverse) span) := by
  unfold Section.reverse Section.ofHunk Hunk.ofSpan Hunk.oldLength Hunk.newLength
  simp only [← List.map_drop, ← List.map_take, countP_inOld_reverse, countP_inNew_reverse]

/-- Undoing the patch of a script is the patch of undoing the script. -/
theorem Patch.reverse_ofScript (oldLabel newLabel : String) (edits : List Edit) :
    (Patch.ofScript oldLabel newLabel edits).reverse =
      Patch.ofScript newLabel oldLabel (edits.map Edit.reverse) := by
  unfold Patch.reverse Patch.ofScript hunks
  rw [spans_reverse]
  simp only [List.map_map, Function.comp_def, Section.reverse_ofSpan]

/-- **The reversed hunks of a script make its old lines of its new lines.** -/
theorem apply_reverse_hunks (oldLabel newLabel : String) (edits : List Edit) :
    (Patch.ofScript oldLabel newLabel edits).reverse.apply (newLines edits) =
      some (oldLines edits) := by
  rw [Patch.reverse_ofScript, ← oldLines_reverse, apply_hunks, newLines_reverse]

end SinglePath.Diff
