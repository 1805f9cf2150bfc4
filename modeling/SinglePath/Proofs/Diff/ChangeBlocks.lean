/-
**Removals come before additions.**

Each step of an alignment only compares how many lines the two ways on would keep. An addition is made
when it keeps strictly more lines than a removal, and it leaves the old line in place, so the same
comparison comes out the same way for the next new line: the lines kept without the old line can only
have become fewer.

* `kept_align_le_cons` — one more new line to choose from never makes an alignment keep fewer lines;
* `inNew_head_of_adding` — so an addition is not followed by a removal;
* `removesFirst_script` — a script removes before it adds;
* `RemovesFirst.exists_runs` — where nothing is kept, it is a run of removals and then a run of additions;
* `removals_before_additions` — both of every script, and of the lines of every diff.
-/

import Mathlib.Data.List.Chain
import SinglePath.Proofs.Diff.RoundTrip
import SinglePath.Proofs.Diff.Shortest

namespace SinglePath.Diff

/-! ### Scripts that remove before they add -/

/-- Whether an edit may be followed by another one: after an addition nothing is removed. -/
def Edit.MayPrecede (edit next : Edit) : Prop :=
  edit.inOld = true ∨ next.inNew = true

/-- A script in which no addition is followed at once by a removal. -/
def RemovesFirst (edits : List Edit) : Prop :=
  edits.IsChain Edit.MayPrecede

theorem removesFirst_iff {edits : List Edit} :
    RemovesFirst edits ↔ ∀ before added removed after,
      edits ≠ before ++ .add added :: .remove removed :: after := by
  unfold RemovesFirst
  rw [List.isChain_iff_forall_rel_of_append_cons_cons]
  constructor
  · intro follows before added removed after shape
    rcases follows shape with inOld | inNew
    · cases inOld
    · cases inNew
  · intro avoids edit next before after shape
    cases edit with
    | keep line => exact Or.inl rfl
    | remove line => exact Or.inl rfl
    | add added =>
        cases next with
        | keep line => exact Or.inr rfl
        | add line => exact Or.inr rfl
        | remove removed => exact absurd shape (avoids before added removed after)

theorem removesFirst_cons {edit : Edit} {edits : List Edit} :
    RemovesFirst (edit :: edits) ↔ (∀ next ∈ edits.head?, edit.MayPrecede next) ∧ RemovesFirst edits :=
  List.isChain_cons

/-- Additions that go on to the end of a stretch. -/
theorem RemovesFirst.exists_added {added : String} {edits : List Edit}
    (removesFirst : RemovesFirst (.add added :: edits))
    (changes : ∀ edit ∈ edits, edit.isChange = true) : ∃ more : List String, edits = more.map .add := by
  induction edits generalizing added with
  | nil => exact ⟨[], rfl⟩
  | cons edit edits ih =>
      obtain ⟨changed, others⟩ := List.forall_mem_cons.mp changes
      obtain ⟨follows, rest⟩ := removesFirst_cons.mp removesFirst
      cases edit with
      | keep line => cases changed
      | remove line => rcases follows _ rfl with inOld | inNew <;> contradiction
      | add next =>
          obtain ⟨more, rfl⟩ := ih rest others
          exact ⟨next :: more, rfl⟩

/-- **A stretch in which nothing is kept** is a run of removals and then a run of additions. -/
theorem RemovesFirst.exists_runs {block : List Edit} (removesFirst : RemovesFirst block)
    (changes : ∀ edit ∈ block, edit.isChange = true) :
    ∃ removed added : List String, block = removed.map .remove ++ added.map .add := by
  induction block with
  | nil => exact ⟨[], [], rfl⟩
  | cons edit block ih =>
      obtain ⟨changed, others⟩ := List.forall_mem_cons.mp changes
      cases edit with
      | keep line => cases changed
      | remove line =>
          obtain ⟨removed, added, rfl⟩ := ih (removesFirst_cons.mp removesFirst).2 others
          exact ⟨line :: removed, added, rfl⟩
      | add line =>
          obtain ⟨more, rfl⟩ := removesFirst.exists_added others
          exact ⟨[], line :: more, rfl⟩

/-! ### The comparison behind an addition -/

theorem keptLines_align_sublist (old new : List String) :
    (keptLines (align old new).edits).Sublist old ∧ (keptLines (align old new).edits).Sublist new := by
  have inOld := keptLines_sublist_oldLines (align old new).edits
  have inNew := keptLines_sublist_newLines (align old new).edits
  rw [(align_reads old new).1] at inOld
  rw [(align_reads old new).2] at inNew
  exact ⟨inOld, inNew⟩

/-- One more new line to choose from never makes an alignment keep fewer lines. -/
theorem kept_align_le_cons (old : List String) (new : String) (news : List String) :
    (align old news).kept ≤ (align old (new :: news)).kept := by
  obtain ⟨inOld, inNew⟩ := keptLines_align_sublist old news
  rw [← length_keptLines_align]
  exact length_le_kept_align old (new :: news) inOld (inNew.cons new)

theorem kept_align_nil (old : List String) : (align old []).kept = 0 := by
  rw [← length_keptLines_align, List.sublist_nil.mp (keptLines_align_sublist old []).2]
  rfl

/-- **An addition is not followed by a removal**: if the old line is worth keeping in place for the sake of
the lines behind a new one, it still is when that new line is passed. -/
theorem inNew_head_of_adding {old new : String} {olds news : List String}
    (adding : (align olds (new :: news)).kept < (align (old :: olds) news).kept) :
    ∀ next ∈ (align (old :: olds) news).edits.head?, next.inNew = true := by
  cases news with
  | nil =>
      rw [kept_align_nil] at adding
      exact absurd adding (Nat.not_lt_zero _)
  | cons following news =>
      have fewer := kept_align_le_cons olds new (following :: news)
      rw [align] at adding ⊢
      split at adding
      · rename_i same
        rw [if_pos same]
        rintro next ⟨⟩
        rfl
      · rename_i different
        rw [if_neg different]
        split at adding
        · -- removing the old line now would keep what removing it before could have kept
          have kept : (align olds (new :: following :: news)).kept <
            (align olds (following :: news)).kept := adding
          omega
        · rename_i stillAdding
          rw [if_neg stillAdding]
          rintro next ⟨⟩
          rfl

theorem removesFirst_align (old new : List String) : RemovesFirst (align old new).edits := by
  have behind : ∀ {edit : Edit} {edits : List Edit}, edit.inOld = true → RemovesFirst edits →
      RemovesFirst (edit :: edits) := fun inOld rest => removesFirst_cons.mpr ⟨fun _ _ => Or.inl inOld, rest⟩
  induction old, new using align.induct with
  | case1 =>
      rw [align]
      exact List.isChain_nil
  | case2 new news ih =>
      rw [align]
      refine removesFirst_cons.mpr ⟨fun next found => Or.inr ?_, ih⟩
      -- without old lines there is nothing to remove
      cases news with
      | nil =>
          rw [align] at found
          cases found
      | cons following news =>
          rw [align] at found
          cases found
          rfl
  | case3 old olds ih =>
      rw [align]
      exact behind rfl ih
  | case4 olds new news ih =>
      rw [align, if_pos rfl]
      exact behind rfl ih
  | case5 old olds new news different removing _ ih =>
      rw [align, if_neg different, if_pos removing]
      exact behind rfl ih
  | case6 old olds new news different adding ih _ =>
      rw [align, if_neg different, if_neg adding]
      exact removesFirst_cons.mpr
        ⟨fun next found => Or.inr (inNew_head_of_adding (Nat.not_le.mp adding) next found), ih⟩

/-- **A script removes before it adds.** -/
theorem removesFirst_script (old new : List String) : RemovesFirst (script old new) := by
  rw [script_eq]
  exact removesFirst_align old new

/-- A hunk removes before it adds, as the script does that it is cut out of. -/
theorem RemovesFirst.of_mem_hunks {edits : List Edit} (removesFirst : RemovesFirst edits) {h : Hunk}
    (shown : h ∈ hunks edits) : RemovesFirst h.edits := by
  obtain ⟨span, -, rfl⟩ := List.mem_map.mp shown
  exact (List.IsChain.drop removesFirst _).take _

/-! ### The lines of a diff -/

/-- Whether a line of a diff may be followed by another one: after an added line none is removed. -/
def LineMayPrecede (line next : List Char) : Prop :=
  line.head? = some '+' → next.head? ≠ some '-'

theorem Edit.MayPrecede.text {edit next : Edit} (follows : edit.MayPrecede next) :
    LineMayPrecede edit.text next.text := by
  intro isAdded isRemoved
  cases edit <;> cases next <;> simp_all [Edit.text, Edit.MayPrecede, Edit.inOld, Edit.inNew]

/-- The lines of hunks that remove before they add: a header parts the lines of two hunks. -/
theorem isChain_texts {shown : List Hunk} (removesFirst : ∀ h ∈ shown, RemovesFirst h.edits) :
    (shown.flatMap Hunk.texts ++ [[]]).IsChain LineMayPrecede := by
  induction shown with
  | nil => exact List.isChain_singleton _
  | cons h shown ih =>
      obtain ⟨first, others⟩ := List.forall_mem_cons.mp removesFirst
      have body : (h.edits.map Edit.text).IsChain LineMayPrecede :=
        List.isChain_map_of_isChain Edit.text (fun _ _ follows => follows.text) first
      have lines : h.texts.IsChain LineMayPrecede := by
        refine List.isChain_cons.mpr ⟨fun next _ isAdded => ?_, body⟩
        cases isAdded
      rw [List.flatMap_cons, List.append_assoc]
      refine lines.append (ih others) fun last _ next isNext isAdded isRemoved => ?_
      cases shown with
      | nil =>
          cases isNext
          cases isRemoved
      | cons other shown =>
          cases isNext
          cases isRemoved

theorem pieces_render {shown : List Hunk}
    (oneLine : ∀ h ∈ shown, ∀ edit ∈ h.edits, '\n' ∉ edit.line.toList) :
    Text.Chars.pieces '\n' (String.join (shown.map Hunk.render)).toList =
      shown.flatMap Hunk.texts ++ [[]] := by
  have rendered : (String.join (shown.map Hunk.render)).toList =
      (shown.flatMap Hunk.texts).flatMap (· ++ ['\n']) := by
    rw [String.toList_join, List.flatMap_map, List.flatMap_assoc]
    simp only [Hunk.toList_render]
  rw [rendered]
  refine Text.Chars.pieces_terminated fun text member => ?_
  obtain ⟨h, listed, member⟩ := List.mem_flatMap.mp member
  exact h.newline_not_mem_of_mem_texts (oneLine h listed) member

/-- **Removals come before additions.** No addition of a script is followed at once by a removal, so where
nothing is kept a script is a run of removals and then a run of additions. In the hunks of a diff no line
marked as added is followed at once by one marked as removed. -/
theorem removals_before_additions :
    (∀ old new : List String,
      (∀ before added removed after,
        script old new ≠ before ++ .add added :: .remove removed :: after) ∧
      ∀ block, block <:+: script old new → (∀ edit ∈ block, edit.isChange = true) →
        ∃ removed added : List String, block = removed.map .remove ++ added.map .add) ∧
    ∀ old new oldLabel newLabel : String,
      (Text.lines old = Text.lines new → unified old new oldLabel newLabel = "") ∧
      (Text.lines old ≠ Text.lines new → ∃ body,
        unified old new oldLabel newLabel = labels oldLabel newLabel ++ body ∧
        ∀ before line next after,
          Text.Chars.pieces '\n' body.toList = before ++ line :: next :: after →
          line.head? = some '+' → next.head? ≠ some '-') := by
  constructor
  · intro old new
    have removesFirst := removesFirst_script old new
    refine ⟨removesFirst_iff.mp removesFirst, fun block stretch changes => ?_⟩
    have removesFirstHere : RemovesFirst block := List.IsChain.infix removesFirst stretch
    exact removesFirstHere.exists_runs changes
  · intro old new oldLabel newLabel
    refine ⟨fun same => unified_of_same same oldLabel newLabel, fun different =>
      ⟨_, unified_of_ne different oldLabel newLabel, fun before line next after divided => ?_⟩⟩
    have removesFirst := removesFirst_script (Text.lines old) (Text.lines new)
    rw [pieces_render fun _ shown _ member =>
      newline_not_mem_of_mem_script (mem_of_mem_hunks shown member)] at divided
    have lines := isChain_texts fun _ shown => removesFirst.of_mem_hunks shown
    exact List.isChain_iff_forall_rel_of_append_cons_cons.mp lines divided

end SinglePath.Diff
