/-
**Which settings and arguments are accepted.**

* `Settings.check_eq_ok_iff` — settings pass when every group has an alternative and no required text is
  blank;
* `ExecutionArgument.parseAll_eq_ok_iff`, `ExecutionArgument.parseAll_eq_error_iff` — arguments are read
  when there are at least two of them and each can be read on its own.
-/

import SinglePath.Argument
import SinglePath.Proofs.Report.Reading
import SinglePath.Settings

namespace SinglePath

theorem Settings.check_eq_ok_iff (s : Settings) :
    s.check = .ok () ↔ (∀ group ∈ s.matrix.groups, group ≠ []) ∧
      ∀ entry ∈ s.requiredTexts, Text.isBlankText entry.2 = false := by
  have groups : s.matrix.groups.findIdx? List.isEmpty = none ↔ ∀ group ∈ s.matrix.groups, group ≠ [] := by
    simp only [List.findIdx?_eq_none_iff, List.isEmpty_eq_false_iff]
  have texts : s.requiredTexts.find? (fun entry => Text.isBlankText entry.2) = none ↔
      ∀ entry ∈ s.requiredTexts, Text.isBlankText entry.2 = false := by
    simp only [List.find?_eq_none, Bool.not_eq_true]
  rw [← groups, ← texts]
  unfold Settings.check
  split
  · rename_i index first
    simp [first]
  · rename_i none
    split
    · rename_i blank
      simp [blank]
    · rename_i filled
      simp [none, filled]

/-- A list is read when each of its items is. -/
theorem mapM_eq_ok_iff {α β ε : Type} {read : α → Except ε β} {items : List α} {values : List β} :
    items.mapM read = .ok values ↔
      List.Forall₂ (fun item value => read item = .ok value) items values := by
  induction items generalizing values with
  | nil =>
      rw [List.mapM_nil, List.forall₂_nil_left_iff]
      exact ⟨fun same => (Except.ok.inj same).symm, fun empty => by rw [empty]; rfl⟩
  | cons item rest ih =>
      simp only [List.mapM_cons, Report.bind_eq_ok_iff, ih]
      constructor
      · rintro ⟨value, first, others, later, same⟩
        cases same
        exact .cons first later
      · rintro (_ | ⟨first, later⟩)
        exact ⟨_, first, _, later, rfl⟩

/-- A list is refused for its first item that cannot be read. -/
theorem mapM_eq_error_iff {α β ε : Type} {read : α → Except ε β} {items : List α} {error : ε} :
    items.mapM read = .error error ↔ ∃ before bad after, items = before ++ bad :: after ∧
      (∀ earlier ∈ before, ∃ value, read earlier = .ok value) ∧ read bad = .error error := by
  induction items with
  | nil =>
      constructor
      · intro failed
        cases failed
      · rintro ⟨before, bad, after, shape, -⟩
        simp at shape
  | cons item rest ih =>
      have last : ∀ (value : β) (values : List β), (pure (value :: values) : Except ε (List β)) ≠ .error error :=
        fun _ _ failed => nomatch failed
      simp only [List.mapM_cons, Report.bind_eq_error_iff, ih, last, and_false, exists_false, or_false]
      constructor
      · rintro (failed | ⟨value, first, before, bad, after, rfl, readable, failed⟩)
        · exact ⟨[], item, rest, rfl, by simp, failed⟩
        · exact ⟨item :: before, bad, after, rfl,
            List.forall_mem_cons.mpr ⟨⟨value, first⟩, readable⟩, failed⟩
      · rintro ⟨before, bad, after, shape, readable, failed⟩
        cases before with
        | nil =>
            cases shape
            exact Or.inl failed
        | cons first before =>
            cases shape
            obtain ⟨⟨value, isRead⟩, readable⟩ := List.forall_mem_cons.mp readable
            exact Or.inr ⟨value, isRead, before, bad, after, rfl, readable, failed⟩

theorem ExecutionArgument.parseAll_eq_ok_iff {texts : List String}
    {arguments : List ExecutionArgument} :
    parseAll texts = .ok arguments ↔ required ≤ texts.length ∧
      List.Forall₂ (fun text argument => parse text = .ok argument) texts arguments := by
  unfold parseAll
  by_cases few : texts.length < required
  · rw [if_pos few]
    simp [Nat.not_le.mpr few]
  · rw [if_neg few, mapM_eq_ok_iff]
    simp [Nat.not_lt.mp few]

theorem ExecutionArgument.parseAll_eq_error_iff {texts : List String} {error : ArgumentError} :
    parseAll texts = .error error ↔
      texts.length < required ∧ error = .tooFew required texts.length ∨
      required ≤ texts.length ∧ ∃ before bad after, texts = before ++ bad :: after ∧
        (∀ earlier ∈ before, ∃ argument, parse earlier = .ok argument) ∧ parse bad = .error error := by
  unfold parseAll
  by_cases few : texts.length < required
  · rw [if_pos few]
    simp [few, Nat.not_le.mpr few, eq_comm]
  · rw [if_neg few, mapM_eq_error_iff]
    simp [few, Nat.not_lt.mp few]

end SinglePath
