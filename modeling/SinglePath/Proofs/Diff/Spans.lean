/-
**What the shown stretches of a script leave out.**

* `mem_changes_iff`, `changes_increasing` — the changes of a script are listed in order, each once;
* `covers_spans` — the stretches lie in order inside the script, and no change lies outside of them;
* `hunks_eq_nil_iff` — nothing is shown exactly when nothing is changed.
-/

import SinglePath.Diff.Hunk
import SinglePath.Proofs.Diff.Alignment

namespace SinglePath.Diff

/-! ### The edits between two positions -/

/-- The edits from `start` on, up to but not including `stop`. -/
def between (edits : List Edit) (start stop : Nat) : List Edit :=
  (edits.drop start).take (stop - start)

theorem take_append_between (edits : List Edit) {start stop : Nat} (ordered : start ≤ stop) :
    edits.take start ++ between edits start stop = edits.take stop := by
  unfold between
  rw [← List.take_add, Nat.add_sub_cancel' ordered]

theorem between_append_drop (edits : List Edit) {start stop : Nat} (ordered : start ≤ stop) :
    between edits start stop ++ edits.drop stop = edits.drop start := by
  unfold between
  rw [show edits.drop stop = (edits.drop start).drop (stop - start) by
    rw [List.drop_drop, Nat.add_sub_cancel' ordered], List.take_append_drop]

theorem between_length (edits : List Edit) (start : Nat) :
    between edits start edits.length = edits.drop start := by
  unfold between
  rw [← List.length_drop, List.take_length]

/-- An edit between two positions has a position there. -/
theorem exists_position_of_mem_between {edits : List Edit} {start stop : Nat} {edit : Edit}
    (member : edit ∈ between edits start stop) :
    ∃ position, start ≤ position ∧ position < stop ∧ edits[position]? = some edit := by
  obtain ⟨offset, found⟩ := List.mem_iff_getElem?.mp member
  unfold between at found
  rw [List.getElem?_take] at found
  split at found
  · rename_i inside
    rw [List.getElem?_drop] at found
    exact ⟨start + offset, by omega, by omega, found⟩
  · cases found

/-! ### The changes of a script -/

theorem mem_changes_iff {edits : List Edit} {first position : Nat} :
    position ∈ changes first edits ↔
      ∃ offset edit, position = first + offset ∧ edits[offset]? = some edit ∧
        edit.isChange = true := by
  induction edits generalizing first with
  | nil =>
      constructor
      · intro member
        exact absurd member List.not_mem_nil
      · rintro ⟨offset, edit, -, found, -⟩
        cases found
  | cons head rest ih =>
      -- the head is at offset zero, and the changes of the rest start one position later
      have split : (∃ offset edit, position = first + offset ∧
            (head :: rest)[offset]? = some edit ∧ edit.isChange = true) ↔
          (position = first ∧ head.isChange = true) ∨ position ∈ changes (first + 1) rest := by
        rw [ih]
        constructor
        · rintro ⟨offset, edit, place, found, changed⟩
          cases offset with
          | zero =>
              cases found
              exact Or.inl ⟨place, changed⟩
          | succ offset => exact Or.inr ⟨offset, edit, by omega, found, changed⟩
        · rintro (⟨place, changed⟩ | ⟨offset, edit, place, found, changed⟩)
          · exact ⟨0, head, place, rfl, changed⟩
          · exact ⟨offset + 1, edit, by omega, found, changed⟩
      rw [split, changes]
      cases head.isChange with
      | true => simp
      | false => simp

/-- The changes of a whole script are at the positions of its changing edits. -/
theorem mem_changes_zero_iff {edits : List Edit} {position : Nat} :
    position ∈ changes 0 edits ↔
      ∃ edit, edits[position]? = some edit ∧ edit.isChange = true := by
  rw [mem_changes_iff]
  constructor
  · rintro ⟨offset, edit, place, found, changed⟩
    rw [Nat.zero_add] at place
    exact ⟨edit, place ▸ found, changed⟩
  · rintro ⟨edit, found, changed⟩
    exact ⟨position, edit, (Nat.zero_add position).symm, found, changed⟩

theorem lt_length_of_mem_changes {edits : List Edit} {position : Nat}
    (member : position ∈ changes 0 edits) : position < edits.length := by
  obtain ⟨edit, found, -⟩ := mem_changes_zero_iff.mp member
  exact (List.getElem?_eq_some_iff.mp found).1

/-- The changes are listed in order, each once. -/
theorem changes_increasing (first : Nat) (edits : List Edit) :
    (changes first edits).Pairwise (· < ·) := by
  induction edits generalizing first with
  | nil => exact List.Pairwise.nil
  | cons head rest ih =>
      rw [changes]
      split
      · refine List.pairwise_cons.mpr ⟨fun position member => ?_, ih (first + 1)⟩
        obtain ⟨offset, edit, place, -, -⟩ := mem_changes_iff.mp member
        omega
      · exact ih (first + 1)

/-- No change between two positions, in terms of the list of changes. -/
theorem unchanged_between {edits : List Edit} {start stop : Nat}
    (none : ∀ position ∈ changes 0 edits, start ≤ position → stop ≤ position) :
    Unchanged (between edits start stop) := by
  intro edit member
  obtain ⟨position, late, early, found⟩ := exists_position_of_mem_between member
  cases kind : edit.isChange with
  | false => rfl
  | true =>
      have := none position (mem_changes_zero_iff.mpr ⟨edit, found, kind⟩) late
      omega

theorem unchanged_drop {edits : List Edit} {start : Nat}
    (none : ∀ position ∈ changes 0 edits, position < start) : Unchanged (edits.drop start) := by
  rw [← between_length]
  refine unchanged_between fun position member late => ?_
  have := none position member
  omega

theorem changes_eq_nil_iff (first : Nat) {edits : List Edit} :
    changes first edits = [] ↔ Unchanged edits := by
  induction edits generalizing first with
  | nil => exact ⟨fun _ _ member => absurd member List.not_mem_nil, fun _ => rfl⟩
  | cons head rest ih =>
      rw [changes, unchanged_cons, ← ih (first + 1)]
      cases head.isChange with
      | true => simp
      | false => simp

/-! ### The spans of a script -/

/-- The spans lie in order inside the script, behind the edits that are `done`, and every edit there
that is in none of them is a kept line. -/
def Covers (edits : List Edit) : Nat → List Span → Prop
  | done, [] => Unchanged (edits.drop done)
  | done, span :: rest =>
    done ≤ span.start ∧ span.start ≤ span.stop ∧ span.stop ≤ edits.length ∧
      Unchanged (between edits done span.start) ∧ Covers edits span.stop rest

theorem Span.start_around_le (size position : Nat) : (around size position).start ≤ position :=
  Nat.sub_le position context

theorem Span.lt_stop_around {size position : Nat} (inside : position < size) :
    position < (around size position).stop := by
  show position < min (position + 1 + context) size
  omega

theorem Span.stop_around_le (size position : Nat) : (around size position).stop ≤ size :=
  Nat.min_le_right _ _

/-- **Joined spans cover what their parts cover.** All changes behind `current` are still to come, and
those before it are done. -/
theorem covers_joinSpans {edits : List Edit} {positions : List Nat} {done : Nat} {current : Span}
    (increasing : positions.Pairwise (· < ·)) (known : ∀ position ∈ positions, position < edits.length)
    (behind : done ≤ current.start) (proper : current.start ≤ current.stop)
    (inside : current.stop ≤ edits.length)
    (before : ∀ position ∈ changes 0 edits, done ≤ position → current.start ≤ position)
    (after : ∀ position ∈ changes 0 edits, current.stop ≤ position → position ∈ positions) :
    Covers edits done (joinSpans current (positions.map (Span.around edits.length))) := by
  induction positions generalizing done current with
  | nil =>
      refine ⟨behind, proper, inside, unchanged_between before, unchanged_drop ?_⟩
      intro position member
      exact Nat.lt_of_not_le fun late => absurd (after position member late) List.not_mem_nil
  | cons next positions ih =>
      obtain ⟨later, increasing⟩ := List.pairwise_cons.mp increasing
      obtain ⟨nextInside, known⟩ := List.forall_mem_cons.mp known
      have reaches := Span.lt_stop_around nextInside
      have starts := Span.start_around_le edits.length next
      have stops := Span.stop_around_le edits.length next
      have pending : ∀ position ∈ changes 0 edits, current.stop ≤ position →
          (Span.around edits.length next).stop ≤ position → position ∈ positions := by
        intro position member late beyond
        rcases List.mem_cons.mp (after position member late) with same | member
        · omega
        · exact member
      rw [List.map_cons, joinSpans]
      split
      · refine ih increasing known behind ?_ ?_ before fun position member late => ?_
        · exact Nat.le_trans proper (Nat.le_max_left _ _)
        · exact Nat.max_le.mpr ⟨inside, stops⟩
        · obtain ⟨late, beyond⟩ := Nat.max_le.mp late
          exact pending position member late beyond
      · refine ⟨behind, proper, inside, unchanged_between before, ?_⟩
        refine ih increasing known (by omega) (by omega) stops (fun position member late => ?_)
          fun position member beyond => pending position member (by omega) beyond
        rcases List.mem_cons.mp (after position member late) with same | member
        · omega
        · have := later position member
          omega

/-- **The spans of a script cover its changes.** -/
theorem covers_spans (edits : List Edit) : Covers edits 0 (spans edits) := by
  unfold spans
  cases listed : changes 0 edits with
  | nil =>
      rw [changes_eq_nil_iff] at listed
      exact listed
  | cons first positions =>
      have increasing := changes_increasing 0 edits
      have known : ∀ position ∈ first :: positions, position < edits.length :=
        fun position member => lt_length_of_mem_changes (listed ▸ member)
      rw [listed] at increasing
      obtain ⟨later, increasing⟩ := List.pairwise_cons.mp increasing
      obtain ⟨firstInside, known⟩ := List.forall_mem_cons.mp known
      have reaches := Span.lt_stop_around firstInside
      have starts := Span.start_around_le edits.length first
      rw [List.map_cons]
      refine covers_joinSpans increasing known (Nat.zero_le _) (by omega)
        (Span.stop_around_le edits.length first) (fun position member _ => ?_)
        fun position member beyond => ?_
      · rcases List.mem_cons.mp (listed ▸ member) with same | member
        · omega
        · have := later position member
          omega
      · rcases List.mem_cons.mp (listed ▸ member) with same | member
        · omega
        · exact member

theorem joinSpans_ne_nil (current : Span) (rest : List Span) : joinSpans current rest ≠ [] := by
  induction rest generalizing current with
  | nil => exact List.cons_ne_nil _ _
  | cons next rest ih =>
      rw [joinSpans]
      split
      · exact ih _
      · exact List.cons_ne_nil _ _

/-- **Nothing is shown exactly when nothing is changed.** -/
theorem hunks_eq_nil_iff {edits : List Edit} : hunks edits = [] ↔ Unchanged edits := by
  unfold hunks spans
  rw [List.map_eq_nil_iff, ← changes_eq_nil_iff 0]
  cases changes 0 edits with
  | nil => exact ⟨fun _ => rfl, fun _ => rfl⟩
  | cons first positions =>
      exact ⟨fun none => absurd none (joinSpans_ne_nil _ _),
        fun none => absurd none (List.cons_ne_nil _ _)⟩

/-- Where nothing is changed in the spans that cover a script, nothing is changed at all. -/
theorem Covers.unchanged {edits : List Edit} {spans : List Span} {done : Nat}
    (covers : Covers edits done spans)
    (shown : ∀ span ∈ spans, Unchanged (Hunk.ofSpan edits span).edits) :
    Unchanged (edits.drop done) := by
  induction spans generalizing done with
  | nil => exact covers
  | cons span spans ih =>
      obtain ⟨behind, proper, -, before, covers⟩ := covers
      rw [List.forall_mem_cons] at shown
      rw [← between_append_drop edits behind, ← between_append_drop edits proper]
      exact List.forall_mem_append.mpr
        ⟨before, List.forall_mem_append.mpr ⟨shown.1, ih covers shown.2⟩⟩

/-- **A change is shown**, if there is one. -/
theorem exists_change_of_not_unchanged {edits : List Edit} (changed : ¬ Unchanged edits) :
    ∃ h ∈ hunks edits, ∃ edit ∈ h.edits, edit.isChange = true := by
  by_cases none : ∀ span ∈ spans edits, Unchanged (Hunk.ofSpan edits span).edits
  · exact absurd ((covers_spans edits).unchanged none) changed
  · simp only [Unchanged, Classical.not_forall, Bool.not_eq_false] at none
    obtain ⟨span, member, edit, listed, isChange⟩ := none
    exact ⟨Hunk.ofSpan edits span, List.mem_map_of_mem member, edit, listed, isChange⟩

end SinglePath.Diff
