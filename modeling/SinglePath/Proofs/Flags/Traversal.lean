/-
**A walk goes through a product in mixed-radix order.**

The configurations of a matrix are numbered: the position of a configuration, written with one digit for
each group, tells which alternative of each group it is made of. The first group has the most significant
digit.

* `length_configurations` — there are as many as the product of the sizes of the groups;
* `toNat_wordSize` — in machine words this product is cut off at the end only;
* `numbered_extensions` — the one at a position is made of the alternatives that its digits name;
* `run_forM_passed`, `run_forM_stopped` — visits of a list are made in order, up to the first that fails;
* `walk_visits_product` — a walk visits the configurations in the order of their numbers, and no
  configuration after the first visit that fails.
-/

import Mathlib.Data.List.Forall2
import SinglePath.Proofs.MatrixRun
import SinglePath.Proofs.Schedule.Steps
import SinglePath.Proofs.Text.Words

namespace SinglePath

variable {α ε σ : Type}

namespace FlagMatrix

/-! ### How many configurations there are -/

theorem foldl_mul_length (start : Nat) (groups : List (List String)) :
    groups.foldl (fun product group => product * group.length) start = start * size ⟨groups⟩ := by
  unfold size
  induction groups generalizing start with
  | nil => simp
  | cons group rest ih => simp [ih (start * group.length), ih group.length, Nat.mul_assoc]

theorem size_cons (group : List String) (rest : List (List String)) :
    size ⟨group :: rest⟩ = group.length * size ⟨rest⟩ := by
  rw [← foldl_mul_length, size, List.foldl_cons, Nat.one_mul]

theorem size_eq_zero {m : FlagMatrix} (empty : [] ∈ m.groups) : m.size = 0 := by
  obtain ⟨groups⟩ := m
  induction groups with
  | nil => cases empty
  | cons group rest ih =>
      rw [size_cons]
      rcases List.mem_cons.mp empty with rfl | later
      · exact Nat.zero_mul _
      · rw [ih later, Nat.mul_zero]

theorem size_pos {m : FlagMatrix} (alternatives : ∀ group ∈ m.groups, group ≠ []) : 0 < m.size := by
  obtain ⟨groups⟩ := m
  induction groups with
  | nil => exact Nat.one_pos
  | cons group rest ih =>
      obtain ⟨nonempty, later⟩ := List.forall_mem_cons.mp alternatives
      rw [size_cons]
      exact Nat.mul_pos (List.length_pos_iff.mpr nonempty) (ih later)

theorem foldl_mul_ofNat_length (start : Nat) (groups : List (List String)) :
    groups.foldl (fun product group => product * UInt64.ofNat group.length) (UInt64.ofNat start) =
      UInt64.ofNat (groups.foldl (fun product group => product * group.length) start) := by
  induction groups generalizing start with
  | nil => rfl
  | cons group rest ih => rw [List.foldl_cons, List.foldl_cons, ← ih, UInt64.ofNat_mul]

/-- Only the product itself has to fit into a word: what is cut off on the way makes no difference. -/
theorem toNat_wordSize (m : FlagMatrix) : m.wordSize.toNat = m.size % UInt64.size := by
  have words : m.wordSize = UInt64.ofNat m.size := foldl_mul_ofNat_length 1 m.groups
  rw [words]
  exact UInt64.toNat_ofNat'

theorem length_extensions (flags : List String) (groups : List (List String)) :
    (extensions flags groups).length = size ⟨groups⟩ := by
  induction groups generalizing flags with
  | nil => rfl
  | cons group rest ih =>
      rw [extensions, size_cons]
      exact length_flatMap_of_length (fun alternative => ih _) group

theorem length_configurations (m : FlagMatrix) (base : List String) (singlePathFlag : String) :
    (m.configurations base singlePathFlag).length = m.size := by
  rw [configurations, List.length_map, length_extensions]

/-! ### Which configuration is where -/

/-- The number that digits stand for in a mixed radix, the most significant digit first. -/
def number (radices digits : List Nat) : Nat :=
  (radices.zip digits).foldl (fun value place => value * place.1 + place.2) 0

/-- One alternative of each group, by its position in the group. -/
def choice (groups : List (List String)) (digits : List Nat) : List String :=
  List.zipWith (fun group digit => group.getD digit "") groups digits

theorem number_cons {groups : List (List String)} {digits : List Nat}
    (below : List.Forall₂ (· < ·) digits (groups.map List.length)) (radix digit : Nat) :
    number (radix :: groups.map List.length) (digit :: digits) =
      digit * size ⟨groups⟩ + number (groups.map List.length) digits := by
  have shifted : ∀ start, ((groups.map List.length).zip digits).foldl
      (fun value place => value * place.1 + place.2) start =
        start * size ⟨groups⟩ + number (groups.map List.length) digits := by
    unfold number
    induction groups generalizing digits with
    | nil =>
        intro start
        simp [size]
    | cons group rest ih =>
        intro start
        obtain ⟨first, others, -, later, rfl⟩ := List.forall₂_cons_right_iff.mp below
        have moved := ih later
        simp only [List.map_cons, List.zip_cons_cons, List.foldl_cons, size_cons]
        rw [moved, moved (0 * group.length + first), Nat.zero_mul, Nat.zero_add, Nat.add_mul,
          Nat.mul_assoc, Nat.add_assoc]
  rw [number, List.zip_cons_cons, List.foldl_cons, shifted, Nat.zero_mul, Nat.zero_add]

/-- **The flags at a position** are those of the alternatives that the digits of the position name. -/
theorem numbered_extensions (flags : List String) {groups : List (List String)} {k : Nat}
    (inside : k < size ⟨groups⟩) :
    ∃ digits, List.Forall₂ (· < ·) digits (groups.map List.length) ∧
      number (groups.map List.length) digits = k ∧
      (extensions flags groups)[k]? = some (flags ++ (choice groups digits).flatMap Text.fields) := by
  induction groups generalizing flags k with
  | nil =>
      have only : k = 0 := Nat.lt_one_iff.mp inside
      refine ⟨[], .nil, only.symm, ?_⟩
      simp [extensions, choice, only]
  | cons group rest ih =>
      rw [size_cons] at inside
      have nonempty : 0 < size ⟨rest⟩ := by
        by_contra none
        rw [Nat.eq_zero_of_not_pos none, Nat.mul_zero] at inside
        exact Nat.not_lt_zero k inside
      have digit : k / size ⟨rest⟩ < group.length := (Nat.div_lt_iff_lt_mul nonempty).mpr inside
      -- the block of an alternative has one configuration for each position in the other groups
      have place : k % size ⟨rest⟩ < size ⟨rest⟩ := Nat.mod_lt k nonempty
      obtain ⟨digits, below, value, found⟩ :=
        ih (flags ++ Text.fields (group.getD (k / size ⟨rest⟩) "")) place
      refine ⟨k / size ⟨rest⟩ :: digits, .cons digit below, ?_, ?_⟩
      · rw [List.map_cons, number_cons below, value, Nat.div_add_mod']
      · have located := getElem?_flatMap_of_length
          (fun alternative => length_extensions (flags ++ Text.fields alternative) rest) group
          (k / size ⟨rest⟩) place
        rw [Nat.div_add_mod'] at located
        have named : group[k / size ⟨rest⟩]? = some (group.getD (k / size ⟨rest⟩) "") := by
          rw [List.getD_eq_getElem?_getD, List.getElem?_eq_getElem digit, Option.getD_some]
        rw [extensions, located, named, Option.bind_some, found, choice, choice, List.zipWith_cons_cons,
          List.flatMap_cons, List.append_assoc]

end FlagMatrix

/-! ### Visits in order -/

/-- A visit that also notes what was visited. -/
def logged (visit : α → EStateM ε σ Unit) (item : α) : EStateM ε (σ × List α) Unit :=
  fun (state, seen) =>
    match (visit item).run state with
    | .ok () after => .ok () (after, seen ++ [item])
    | .error failure after => .error failure (after, seen ++ [item])

theorem run_logged_of_ok {visit : α → EStateM ε σ Unit} {item : α} {state after : σ}
    (ran : (visit item).run state = .ok () after) (seen : List α) :
    (logged visit item).run (state, seen) = .ok () (after, seen ++ [item]) := by
  simp only [EStateM.run, logged] at ran ⊢
  rw [ran]

theorem run_logged_of_error {visit : α → EStateM ε σ Unit} {item : α} {state after : σ} {failure : ε}
    (ran : (visit item).run state = .error failure after) (seen : List α) :
    (logged visit item).run (state, seen) = .error failure (after, seen ++ [item]) := by
  simp only [EStateM.run, logged] at ran ⊢
  rw [ran]

/-- **Visits that do not fail** are all made. -/
theorem run_forM_passed {visit : α → EStateM ε σ Unit} {items : List α} {state : σ}
    (pass : ∀ turn ∈ turns visit items state, turn.result = .ok ()) (seen : List α) :
    (items.forM visit).run state = .ok () (stateAfter state (turns visit items state)) ∧
    (items.forM (logged visit)).run (state, seen) =
      .ok () (stateAfter state (turns visit items state), seen ++ items) := by
  induction items generalizing state seen with
  | nil => exact ⟨rfl, by simp [turns, stateAfter]⟩
  | cons item rest ih =>
      rw [turns, List.forall_mem_cons] at pass
      have ran := Turn.run_of_take_ok pass.1
      obtain ⟨ends, logs⟩ := ih pass.2 (seen ++ [item])
      simp only [List.forM_eq_forM, List.forM_cons, EStateM.run_bind, turns, stateAfter_cons] at ends logs ⊢
      rw [run_logged_of_ok ran, ran]
      exact ⟨ends, by simpa using logs⟩

/-- **The first visit that fails** is the last one. -/
theorem run_forM_stopped {visit : α → EStateM ε σ Unit} {items : List α} {state : σ} {k : Nat}
    {turn : Turn α ε σ Unit} {failure : ε} (found : (turns visit items state)[k]? = some turn)
    (failed : turn.result = .error failure)
    (earlier : ∀ i < k, ∀ before, (turns visit items state)[i]? = some before → before.result = .ok ())
    (seen : List α) :
    (items.forM visit).run state = .error failure turn.after ∧
    (items.forM (logged visit)).run (state, seen) =
      .error failure (turn.after, seen ++ items.take (k + 1)) := by
  induction items generalizing state seen k with
  | nil => simp [turns] at found
  | cons item rest ih =>
      simp only [List.forM_eq_forM, List.forM_cons, EStateM.run_bind, turns] at ih found earlier ⊢
      cases k with
      | zero =>
          cases found
          have ran := Turn.run_of_take_error failed
          rw [run_logged_of_error ran, ran]
          exact ⟨rfl, by simp⟩
      | succ k =>
          have ran := Turn.run_of_take_ok (earlier 0 (by omega) _ rfl)
          obtain ⟨ends, logs⟩ := ih found (fun i small => earlier (i + 1) (by omega)) (seen ++ [item])
          rw [run_logged_of_ok ran, ran]
          exact ⟨ends, by simpa using logs⟩

theorem run_forM_collect (items seen : List α) :
    (items.forM fun item => (modify (· ++ [item]) : EStateM ε (List α) Unit)).run seen =
      .ok () (seen ++ items) := by
  induction items generalizing seen with
  | nil => simp
  | cons item rest ih =>
      simp only [List.forM_eq_forM, List.forM_cons, EStateM.run_bind] at ih ⊢
      rw [EStateM.run_modify]
      simpa using ih (seen ++ [item])

/-- **A walk visits the product of the groups in mixed-radix order**, and stops at the first visit that
fails. The flags of the configuration at a position are the words of the base flags and of one alternative
of each group: the one that the digit of the position for this group names, where the first group has the
most significant digit. -/
theorem walk_visits_product (m : FlagMatrix) (base : List String) (singlePathFlag : String)
    (visit : Configuration → EStateM ε σ Unit) (state : σ) :
    let radices := m.groups.map List.length
    let configurations := m.configurations base singlePathFlag
    let visits := turns visit configurations state
    let walked := (m.walk base singlePathFlag visit).run state
    let noted := (m.walk base singlePathFlag (logged visit)).run (state, [])
    configurations.length = radices.foldl (· * ·) 1 ∧
    configurations.length = m.size ∧
    (m.size < UInt64.size → m.wordSize.toNat = configurations.length) ∧
    (m.groups = [] → configurations.length = 1) ∧
    ([] ∈ m.groups → configurations.length = 0) ∧
    (∀ k < configurations.length, ∃ digits, List.Forall₂ (· < ·) digits radices ∧
      FlagMatrix.number radices digits = k ∧
      let flags := base.flatMap Text.fields ++ (FlagMatrix.choice m.groups digits).flatMap Text.fields
      configurations[k]? = some (.ofFlags singlePathFlag flags) ∧
      configurations[k]?.map Configuration.flags = some flags) ∧
    (∀ text words, Text.fields text = words ↔ Text.Splits text words) ∧
    (m.walk base singlePathFlag fun c =>
      (modify (· ++ [c]) : EStateM ε (List Configuration) Unit)).run [] = .ok () configurations ∧
    ((∃ after, walked = .ok () after) ↔ ∀ turn ∈ visits, turn.result = .ok ()) ∧
    ((∀ turn ∈ visits, turn.result = .ok ()) →
      walked = .ok () (stateAfter state visits) ∧
      noted = .ok () (stateAfter state visits, configurations)) ∧
    (∀ k turn failure, visits[k]? = some turn → turn.result = .error failure →
      (∀ i < k, ∀ earlier, visits[i]? = some earlier → earlier.result = .ok ()) →
      walked = .error failure turn.after ∧
      noted = .error failure (turn.after, configurations.take (k + 1))) := by
  intro radices configurations visits walked noted
  have length : configurations.length = m.size := m.length_configurations base singlePathFlag
  have isWalk : walked = (configurations.forM visit).run state :=
    congrArg (EStateM.run · state) (m.walk_eq_forM base singlePathFlag visit)
  have isNoted : noted = (configurations.forM (logged visit)).run (state, []) :=
    congrArg (EStateM.run · (state, [])) (m.walk_eq_forM base singlePathFlag (logged visit))
  refine ⟨?_, length, fun fits => ?_, fun none => ?_, fun empty => ?_, fun k inside => ?_,
    fun _ _ => Text.fields_eq_iff, ?_, ?_⟩
  · rw [length, List.foldl_map]
    rfl
  · rw [length, m.toNat_wordSize, Nat.mod_eq_of_lt fits]
  · rw [length, FlagMatrix.size, none]
    rfl
  · rw [length, FlagMatrix.size_eq_zero empty]
  · rw [length] at inside
    obtain ⟨digits, below, value, found⟩ :=
      FlagMatrix.numbered_extensions (FlagMatrix.baseFlags base) inside
    have listed : configurations[k]? = some (.ofFlags singlePathFlag (base.flatMap Text.fields ++
        (FlagMatrix.choice m.groups digits).flatMap Text.fields)) := by
      simp only [configurations, FlagMatrix.configurations, List.getElem?_map, found, Option.map_some]
      rfl
    exact ⟨digits, below, value, listed, congrArg (Option.map Configuration.flags) listed⟩
  · rw [FlagMatrix.walk_eq_forM, run_forM_collect, List.nil_append]
  · rw [isWalk, isNoted]
    refine ⟨⟨?_, fun pass => ⟨_, (run_forM_passed pass []).1⟩⟩, fun pass => run_forM_passed pass [], ?_⟩
    · rintro ⟨after, passed⟩
      rcases all_ok_or_firstFailed visits with pass | ⟨k, turn, failure, found, failed, earlier⟩
      · exact fun turn member => (pass turn member).choose_spec
      · have stopped := (run_forM_stopped found failed
          (fun i small before atI => (earlier i small before atI).choose_spec) []).1
        cases passed.symm.trans stopped
    · exact fun k turn failure found failed earlier => run_forM_stopped found failed earlier []

end SinglePath
