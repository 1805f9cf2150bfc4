/-
**What the script of two lists of lines reads.**

The table of alignments is filled from the ends of the lists; `align` finds the same alignment from
their heads.

* `table_eq` — the table holds `align` of the old lines with every suffix of the new ones, so
  `script_eq` — the script is the one that `align` finds;
* `oldLines_script`, `newLines_script` — a script reads the old lines on one side and the new lines on
  the other;
* `script_unchanged_iff` — a script changes nothing exactly when the lines are the same.
-/

import Mathlib.Data.List.Infix
import SinglePath.Diff.Script

namespace SinglePath.Diff

/-! ### The two sides of a script -/

/-- The lines that a script reads from the old text. -/
def oldLines (edits : List Edit) : List String :=
  (edits.filter Edit.inOld).map Edit.line

/-- The lines that a script writes into the new text. -/
def newLines (edits : List Edit) : List String :=
  (edits.filter Edit.inNew).map Edit.line

@[simp] theorem oldLines_nil : oldLines [] = [] := rfl

@[simp] theorem oldLines_keep (line : String) (edits : List Edit) :
    oldLines (.keep line :: edits) = line :: oldLines edits := rfl

@[simp] theorem oldLines_remove (line : String) (edits : List Edit) :
    oldLines (.remove line :: edits) = line :: oldLines edits := rfl

@[simp] theorem oldLines_add (line : String) (edits : List Edit) :
    oldLines (.add line :: edits) = oldLines edits := rfl

@[simp] theorem newLines_nil : newLines [] = [] := rfl

@[simp] theorem newLines_keep (line : String) (edits : List Edit) :
    newLines (.keep line :: edits) = line :: newLines edits := rfl

@[simp] theorem newLines_remove (line : String) (edits : List Edit) :
    newLines (.remove line :: edits) = newLines edits := rfl

@[simp] theorem newLines_add (line : String) (edits : List Edit) :
    newLines (.add line :: edits) = line :: newLines edits := rfl

theorem oldLines_append (first second : List Edit) :
    oldLines (first ++ second) = oldLines first ++ oldLines second := by
  unfold oldLines
  rw [List.filter_append, List.map_append]

theorem newLines_append (first second : List Edit) :
    newLines (first ++ second) = newLines first ++ newLines second := by
  unfold newLines
  rw [List.filter_append, List.map_append]

theorem length_oldLines (edits : List Edit) :
    (oldLines edits).length = edits.countP Edit.inOld := by
  unfold oldLines
  rw [List.length_map, List.countP_eq_length_filter]

theorem length_newLines (edits : List Edit) :
    (newLines edits).length = edits.countP Edit.inNew := by
  unfold newLines
  rw [List.length_map, List.countP_eq_length_filter]

/-- The line of every edit is on one of the sides. -/
theorem mem_lines_of_mem {edits : List Edit} {edit : Edit} (member : edit ∈ edits) :
    edit.line ∈ oldLines edits ∨ edit.line ∈ newLines edits := by
  cases edit with
  | keep line => exact Or.inl (List.mem_map.mpr ⟨_, List.mem_filter.mpr ⟨member, rfl⟩, rfl⟩)
  | remove line => exact Or.inl (List.mem_map.mpr ⟨_, List.mem_filter.mpr ⟨member, rfl⟩, rfl⟩)
  | add line => exact Or.inr (List.mem_map.mpr ⟨_, List.mem_filter.mpr ⟨member, rfl⟩, rfl⟩)

theorem Edit.inOld_of_kept : ∀ edit : Edit, edit.isChange = false → edit.inOld = true
  | keep _, _ => rfl

theorem Edit.inNew_of_kept : ∀ edit : Edit, edit.isChange = false → edit.inNew = true
  | keep _, _ => rfl

/-- A script without changes. -/
def Unchanged (edits : List Edit) : Prop :=
  ∀ edit ∈ edits, edit.isChange = false

theorem unchanged_cons {edit : Edit} {edits : List Edit} :
    Unchanged (edit :: edits) ↔ edit.isChange = false ∧ Unchanged edits :=
  List.forall_mem_cons

/-- A script without changes reads the same lines on both sides. -/
theorem Unchanged.oldLines_eq_newLines {edits : List Edit} (unchanged : Unchanged edits) :
    oldLines edits = newLines edits := by
  induction edits with
  | nil => rfl
  | cons edit edits ih =>
      obtain ⟨kept, rest⟩ := unchanged_cons.mp unchanged
      cases edit with
      | keep line => rw [oldLines_keep, newLines_keep, ih rest]
      | remove line => cases kept
      | add line => cases kept

/-! ### The alignment from the heads of the lists -/

/-- The best alignment of two lists of lines: equal heads are kept; of different ones the old line is
removed, unless adding the new line keeps more lines. -/
def align : List String → List String → Alignment
  | [], [] => ⟨0, []⟩
  | [], new :: news => (align [] news).add new
  | old :: olds, [] => (align olds []).remove old
  | old :: olds, new :: news =>
    if old = new then (align olds news).keep old
    else if (align (old :: olds) news).kept ≤ (align olds (new :: news)).kept then
      (align olds (new :: news)).remove old
    else (align (old :: olds) news).add new
  termination_by old new => old.length + new.length

theorem tails_eq_cons {α : Type} (list : List α) : ∃ shorter, list.tails = list :: shorter := by
  cases list with
  | nil => exact ⟨[], rfl⟩
  | cons first rest => exact ⟨rest.tails, List.tails_cons first rest⟩

theorem lastRow_eq (new : List String) : lastRow new = new.tails.map (align []) := by
  induction new with
  | nil =>
      rw [lastRow, List.tails, List.map_singleton, align]
  | cons line rest ih =>
      obtain ⟨shorter, tails⟩ := tails_eq_cons rest
      rw [lastRow, ih, List.tails_cons, tails]
      simp only [List.map_cons, align]

/-- One more old line, from the row of the old lines below it. -/
theorem row_eq (old : String) (olds new : List String) :
    row old new (new.tails.map (align olds)) = new.tails.map (align (old :: olds)) := by
  induction new with
  | nil =>
      rw [List.tails, List.map_singleton, List.map_singleton, row, align]
  | cons line rest ih =>
      obtain ⟨shorter, tails⟩ := tails_eq_cons rest
      rw [tails, List.map_cons, List.map_cons] at ih
      rw [List.tails_cons, tails]
      simp only [List.map_cons]
      rw [row, ih, align]

/-- **The table holds the alignments of the old lines with every suffix of the new ones.** -/
theorem table_eq (old new : List String) : table old new = new.tails.map (align old) := by
  unfold table
  induction old with
  | nil => exact lastRow_eq new
  | cons line rest ih => rw [List.foldr_cons, ih, row_eq]

theorem script_eq (old new : List String) : script old new = (align old new).edits := by
  obtain ⟨shorter, tails⟩ := tails_eq_cons new
  unfold script
  rw [table_eq, tails, List.map_cons]

/-! ### What the script reads -/

/-- An alignment reads the old lines and writes the new ones. -/
theorem align_reads (old new : List String) :
    oldLines (align old new).edits = old ∧ newLines (align old new).edits = new := by
  induction old, new using align.induct with
  | case1 =>
      rw [align]
      exact ⟨oldLines_nil, newLines_nil⟩
  | case2 new news ih =>
      rw [align, Alignment.add, oldLines_add, newLines_add, ih.1, ih.2]
      exact ⟨rfl, rfl⟩
  | case3 old olds ih =>
      rw [align, Alignment.remove, oldLines_remove, newLines_remove, ih.1, ih.2]
      exact ⟨rfl, rfl⟩
  | case4 olds new news ih =>
      rw [align, if_pos rfl, Alignment.keep, oldLines_keep, newLines_keep, ih.1, ih.2]
      exact ⟨rfl, rfl⟩
  | case5 old olds new news different removing _ ih =>
      rw [align, if_neg different, if_pos removing, Alignment.remove, oldLines_remove,
        newLines_remove, ih.1, ih.2]
      exact ⟨rfl, rfl⟩
  | case6 old olds new news different adding ih _ =>
      rw [align, if_neg different, if_neg adding, Alignment.add, oldLines_add, newLines_add, ih.1,
        ih.2]
      exact ⟨rfl, rfl⟩

/-- **A script reads the old lines.** -/
theorem oldLines_script (old new : List String) : oldLines (script old new) = old := by
  rw [script_eq, (align_reads old new).1]

/-- **A script writes the new lines.** -/
theorem newLines_script (old new : List String) : newLines (script old new) = new := by
  rw [script_eq, (align_reads old new).2]

theorem unchanged_align_self (lines : List String) : Unchanged (align lines lines).edits := by
  induction lines with
  | nil =>
      rw [align]
      exact fun _ member => absurd member List.not_mem_nil
  | cons line rest ih =>
      rw [align, if_pos rfl]
      exact unchanged_cons.mpr ⟨rfl, ih⟩

/-- **A script changes nothing exactly when the lines are the same.** -/
theorem script_unchanged_iff (old new : List String) :
    Unchanged (script old new) ↔ old = new := by
  constructor
  · intro unchanged
    calc old = oldLines (script old new) := (oldLines_script old new).symm
      _ = newLines (script old new) := unchanged.oldLines_eq_newLines
      _ = new := newLines_script old new
  · intro same
    rw [← same, script_eq]
    exact unchanged_align_self old

end SinglePath.Diff
