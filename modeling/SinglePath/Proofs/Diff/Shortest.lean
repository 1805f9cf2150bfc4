/-
**No edit script is shorter than the one that is found.**

A script from the old lines to the new ones keeps a common subsequence of both and changes every other
line, so the fewest changes are made where the most lines are kept.

* `countP_isChange_add_keptLines` — a line of either side is changed, or kept on both;
* `length_le_kept_align` — an alignment keeps at least as many lines as any common subsequence has;
* `longestCommon_script` — the kept lines of a script are a longest common subsequence;
* `script_shortest` — a script reads the old lines, writes the new ones, and no other one that does so
  makes fewer changes.
-/

import Mathlib.Data.List.Basic
import SinglePath.Proofs.Diff.Alignment

namespace SinglePath.Diff

/-! ### The lines that a script keeps -/

/-- The lines that a script finds in both texts. -/
def keptLines (edits : List Edit) : List String :=
  (edits.filter fun edit => !edit.isChange).map Edit.line

@[simp] theorem keptLines_keep (line : String) (edits : List Edit) :
    keptLines (.keep line :: edits) = line :: keptLines edits := rfl

@[simp] theorem keptLines_remove (line : String) (edits : List Edit) :
    keptLines (.remove line :: edits) = keptLines edits := rfl

@[simp] theorem keptLines_add (line : String) (edits : List Edit) :
    keptLines (.add line :: edits) = keptLines edits := rfl

theorem length_keptLines (edits : List Edit) :
    (keptLines edits).length = edits.countP fun edit => !edit.isChange := by
  unfold keptLines
  rw [List.length_map, List.countP_eq_length_filter]

theorem keptLines_sublist_oldLines (edits : List Edit) :
    (keptLines edits).Sublist (oldLines edits) := by
  have keptInOld : ∀ edit : Edit, (!edit.isChange) = true → edit.inOld = true := fun edit kept =>
    edit.inOld_of_kept (by simpa using kept)
  exact (List.monotone_filter_right edits keptInOld).map Edit.line

theorem keptLines_sublist_newLines (edits : List Edit) :
    (keptLines edits).Sublist (newLines edits) := by
  have keptInNew : ∀ edit : Edit, (!edit.isChange) = true → edit.inNew = true := fun edit kept =>
    edit.inNew_of_kept (by simpa using kept)
  exact (List.monotone_filter_right edits keptInNew).map Edit.line

/-- **Every line is changed or kept**: a change is about a line of one side, a kept line is on both. -/
theorem countP_isChange_add_keptLines (edits : List Edit) :
    edits.countP Edit.isChange + 2 * (keptLines edits).length =
      (oldLines edits).length + (newLines edits).length := by
  induction edits with
  | nil => rfl
  | cons edit edits ih =>
      cases edit with
      | keep line =>
          rw [List.countP_cons_of_neg Bool.false_ne_true, keptLines_keep, oldLines_keep,
            newLines_keep, List.length_cons, List.length_cons, List.length_cons]
          omega
      | remove line =>
          rw [List.countP_cons_of_pos rfl, keptLines_remove, oldLines_remove, newLines_remove,
            List.length_cons]
          omega
      | add line =>
          rw [List.countP_cons_of_pos rfl, keptLines_add, oldLines_add, newLines_add,
            List.length_cons]
          omega

/-! ### As many lines as possible -/

/-- The number that an alignment carries is the number of lines that its script keeps. -/
theorem length_keptLines_align (old new : List String) :
    (keptLines (align old new).edits).length = (align old new).kept := by
  induction old, new using align.induct with
  | case1 =>
      rw [align]
      rfl
  | case2 new news ih =>
      rw [align, Alignment.add, keptLines_add, ih]
  | case3 old olds ih =>
      rw [align, Alignment.remove, keptLines_remove, ih]
  | case4 olds new news ih =>
      rw [align, if_pos rfl, Alignment.keep, keptLines_keep, List.length_cons, ih]
  | case5 old olds new news different removing _ ih =>
      rw [align, if_neg different, if_pos removing, Alignment.remove, keptLines_remove, ih]
  | case6 old olds new news different adding ih _ =>
      rw [align, if_neg different, if_neg adding, Alignment.add, keptLines_add, ih]

/-- Of two different heads, a common subsequence leaves one out. -/
theorem sublist_of_heads_ne {old new : String} {olds news common : List String}
    (different : old ≠ new) (inOld : common.Sublist (old :: olds))
    (inNew : common.Sublist (new :: news)) : common.Sublist olds ∨ common.Sublist news := by
  rcases List.sublist_cons_iff.mp inOld with inOlds | ⟨rest, startsOld, _⟩
  · exact Or.inl inOlds
  · rcases List.sublist_cons_iff.mp inNew with inNews | ⟨rest', startsNew, _⟩
    · exact Or.inr inNews
    · rw [startsOld] at startsNew
      injection startsNew with same
      exact absurd same different

/-- **An alignment keeps at least as many lines as any common subsequence has.** -/
theorem length_le_kept_align (old new : List String) {common : List String}
    (inOld : common.Sublist old) (inNew : common.Sublist new) :
    common.length ≤ (align old new).kept := by
  induction old, new using align.induct generalizing common with
  | case1 =>
      rw [List.sublist_nil.mp inOld]
      exact Nat.zero_le _
  | case2 new news _ =>
      rw [List.sublist_nil.mp inOld]
      exact Nat.zero_le _
  | case3 old olds _ =>
      rw [List.sublist_nil.mp inNew]
      exact Nat.zero_le _
  | case4 olds new news ih =>
      -- behind the common head, all of the subsequence but its first line is still to be found
      have behind : common.tail.length ≤ (align olds news).kept := ih inOld.tail inNew.tail
      rw [List.length_tail] at behind
      rw [align, if_pos rfl]
      show common.length ≤ (align olds news).kept + 1
      omega
  | case5 old olds new news different removing ihAdding ihRemoving =>
      rw [align, if_neg different, if_pos removing]
      show common.length ≤ (align olds (new :: news)).kept
      rcases sublist_of_heads_ne different inOld inNew with inOlds | inNews
      · exact ihRemoving inOlds inNew
      · exact Nat.le_trans (ihAdding inOld inNews) removing
  | case6 old olds new news different adding ihAdding ihRemoving =>
      rw [align, if_neg different, if_neg adding]
      show common.length ≤ (align (old :: olds) news).kept
      rcases sublist_of_heads_ne different inOld inNew with inOlds | inNews
      · have removing := ihRemoving inOlds inNew
        omega
      · exact ihAdding inOld inNews

/-- A common subsequence of two lists of lines that no other one exceeds in length. -/
structure LongestCommon (old new common : List String) : Prop where
  inOld : common.Sublist old
  inNew : common.Sublist new
  longest : ∀ other : List String, other.Sublist old → other.Sublist new →
    other.length ≤ common.length

theorem LongestCommon.length_eq {old new common other : List String}
    (first : LongestCommon old new common) (second : LongestCommon old new other) :
    common.length = other.length :=
  Nat.le_antisymm (second.longest common first.inOld first.inNew)
    (first.longest other second.inOld second.inNew)

/-- **The kept lines of a script are a longest common subsequence.** -/
theorem longestCommon_script (old new : List String) :
    LongestCommon old new (keptLines (script old new)) where
  inOld := by
    have kept := keptLines_sublist_oldLines (script old new)
    rwa [oldLines_script] at kept
  inNew := by
    have kept := keptLines_sublist_newLines (script old new)
    rwa [newLines_script] at kept
  longest other inOld inNew := by
    rw [script_eq, length_keptLines_align]
    exact length_le_kept_align old new inOld inNew

/-- Of two scripts between the same lines, the one that keeps more lines makes fewer changes. -/
theorem countP_isChange_le_of_keptLines {first second : List Edit}
    (sameOld : oldLines first = oldLines second) (sameNew : newLines first = newLines second)
    (more : (keptLines second).length ≤ (keptLines first).length) :
    first.countP Edit.isChange ≤ second.countP Edit.isChange := by
  have countFirst := countP_isChange_add_keptLines first
  have countSecond := countP_isChange_add_keptLines second
  rw [sameOld, sameNew] at countFirst
  omega

/-- **A script of minimum size.** The script reads the old lines and writes the new ones, it keeps as
many lines as a longest common subsequence has, and no script between the same lines makes fewer
changes. -/
theorem script_shortest (old new : List String) :
    oldLines (script old new) = old ∧ newLines (script old new) = new ∧
    (∃ common, LongestCommon old new common) ∧
    (∀ common, LongestCommon old new common →
      (script old new).countP (fun edit => !edit.isChange) = common.length) ∧
    ∀ edits : List Edit, oldLines edits = old → newLines edits = new →
      (script old new).countP Edit.isChange ≤ edits.countP Edit.isChange := by
  have readsOld := oldLines_script old new
  have writesNew := newLines_script old new
  have longest := longestCommon_script old new
  refine ⟨readsOld, writesNew, ⟨_, longest⟩, fun common isLongest => ?_,
    fun edits reads writes => ?_⟩
  · rw [← length_keptLines]
    exact longest.length_eq isLongest
  · refine countP_isChange_le_of_keptLines (readsOld.trans reads.symm) (writesNew.trans writes.symm) ?_
    have inOld := keptLines_sublist_oldLines edits
    have inNew := keptLines_sublist_newLines edits
    rw [reads] at inOld
    rw [writes] at inNew
    exact longest.longest (keptLines edits) inOld inNew

end SinglePath.Diff
