/-
**Actions taken in turn on one state.**

A check takes the items of a list one after the other and stops at the first that fails. What it
gives is described by what the items give when nothing stops them:

* `turns` — the action for every item, each in the state the one before it left, also after a failure;
* `map_item_turns`, `item_of_getElem?` — the turns are those of the items, in order;
* `exists_first` — a list has no turn of a kind, or it has a first one.
-/

import SinglePath.Toolchain.Basic

namespace SinglePath

variable {α β ε σ : Type}

/-- An item with what the action gave for it. -/
structure Turn (α ε σ β : Type) where
  /-- The item. -/
  item : α
  /-- The state in which the action began. -/
  before : σ
  /-- What the action gave. -/
  result : Except ε β
  /-- The state that the action left. -/
  after : σ

namespace Turn

/-- The turn of an item in a state. -/
def take (action : α → EStateM ε σ β) (item : α) (state : σ) : Turn α ε σ β :=
  match (action item).run state with
  | .ok value after => ⟨item, state, .ok value, after⟩
  | .error failure after => ⟨item, state, .error failure, after⟩

theorem take_of_ok {action : α → EStateM ε σ β} {item : α} {state after : σ} {value : β}
    (ran : (action item).run state = .ok value after) :
    take action item state = ⟨item, state, .ok value, after⟩ := by
  unfold take
  rw [ran]

theorem take_of_error {action : α → EStateM ε σ β} {item : α} {state after : σ} {failure : ε}
    (ran : (action item).run state = .error failure after) :
    take action item state = ⟨item, state, .error failure, after⟩ := by
  unfold take
  rw [ran]

@[simp] theorem take_item (action : α → EStateM ε σ β) (item : α) (state : σ) :
    (take action item state).item = item := by
  unfold take
  split <;> rfl

@[simp] theorem take_before (action : α → EStateM ε σ β) (item : α) (state : σ) :
    (take action item state).before = state := by
  unfold take
  split <;> rfl

/-- A turn that gave a value is a run that gave it. -/
theorem run_of_take_ok {action : α → EStateM ε σ β} {item : α} {state : σ} {value : β}
    (gave : (take action item state).result = .ok value) :
    (action item).run state = .ok value (take action item state).after := by
  cases ran : (action item).run state with
  | ok found after =>
      rw [take_of_ok ran] at gave ⊢
      cases gave
      rfl
  | error failure after =>
      rw [take_of_error ran] at gave
      cases gave

/-- A turn that failed is a run that failed. -/
theorem run_of_take_error {action : α → EStateM ε σ β} {item : α} {state : σ} {failure : ε}
    (gave : (take action item state).result = .error failure) :
    (action item).run state = .error failure (take action item state).after := by
  cases ran : (action item).run state with
  | ok found after =>
      rw [take_of_ok ran] at gave
      cases gave
  | error found after =>
      rw [take_of_error ran] at gave ⊢
      cases gave
      rfl

end Turn

/-- The turns of a list of items; a failure does not end them. -/
def turns (action : α → EStateM ε σ β) : List α → σ → List (Turn α ε σ β)
  | [], _ => []
  | item :: rest, state =>
    Turn.take action item state :: turns action rest (Turn.take action item state).after

/-- The state that a list of turns leaves. -/
def stateAfter (state : σ) (taken : List (Turn α ε σ β)) : σ :=
  (taken.getLast?.map Turn.after).getD state

theorem stateAfter_cons (state : σ) (turn : Turn α ε σ β) (rest : List (Turn α ε σ β)) :
    stateAfter state (turn :: rest) = stateAfter turn.after rest := by
  unfold stateAfter
  rw [List.getLast?_cons]
  cases rest.getLast? <;> rfl

/-- The turns are those of the items, in order. -/
@[simp] theorem map_item_turns (action : α → EStateM ε σ β) (items : List α) (state : σ) :
    (turns action items state).map Turn.item = items := by
  induction items generalizing state with
  | nil => rfl
  | cons item rest ih => rw [turns, List.map_cons, ih, Turn.take_item]

@[simp] theorem length_turns (action : α → EStateM ε σ β) (items : List α) (state : σ) :
    (turns action items state).length = items.length := by
  rw [← List.length_map Turn.item, map_item_turns]

/-- The item of the turn at a position is the item at that position. -/
theorem item_of_getElem? {action : α → EStateM ε σ β} {items : List α} {state : σ} {k : Nat}
    {turn : Turn α ε σ β} (found : (turns action items state)[k]? = some turn) :
    items[k]? = some turn.item := by
  have mapped := congrArg (Option.map Turn.item) found
  rwa [← List.getElem?_map, map_item_turns] at mapped

theorem exists_turn_of_getElem? (action : α → EStateM ε σ β) {items : List α} (state : σ) {k : Nat}
    {item : α} (listed : items[k]? = some item) :
    ∃ turn, (turns action items state)[k]? = some turn ∧ turn.item = item := by
  rwa [← map_item_turns action items state, List.getElem?_map, Option.map_eq_some_iff] at listed

theorem item_mem_of_mem_turns {action : α → EStateM ε σ β} {items : List α} {state : σ}
    {turn : Turn α ε σ β} (member : turn ∈ turns action items state) : turn.item ∈ items := by
  rw [← map_item_turns action items state]
  exact List.mem_map_of_mem member

theorem exists_turn_of_mem (action : α → EStateM ε σ β) {items : List α} (state : σ) {item : α}
    (listed : item ∈ items) : ∃ turn ∈ turns action items state, turn.item = item := by
  rwa [← map_item_turns action items state, List.mem_map] at listed

/-- Every turn is the turn of its item in the state in which it began. -/
theorem eq_take_of_mem_turns {action : α → EStateM ε σ β} {items : List α} {state : σ}
    {turn : Turn α ε σ β} (member : turn ∈ turns action items state) :
    turn = Turn.take action turn.item turn.before := by
  induction items generalizing state with
  | nil => exact absurd member List.not_mem_nil
  | cons item rest ih =>
      rw [turns] at member
      rcases List.mem_cons.mp member with rfl | member
      · rw [Turn.take_item, Turn.take_before]
      · exact ih member

/-! ### The first turn of a kind -/

/-- A list has no element of a kind, or it has a first one. -/
theorem exists_first {γ : Type} (kind : γ → Prop) (xs : List γ) :
    (∀ x ∈ xs, ¬ kind x) ∨
      ∃ (k : Nat) (x : γ), xs[k]? = some x ∧ kind x ∧ ∀ i < k, ∀ y, xs[i]? = some y → ¬ kind y := by
  induction xs with
  | nil => exact Or.inl (by simp)
  | cons head rest ih =>
      by_cases first : kind head
      · exact Or.inr ⟨0, head, rfl, first, by simp⟩
      rcases ih with none | ⟨k, x, found, isKind, before⟩
      · left
        simpa [first] using none
      · right
        refine ⟨k + 1, x, found, isKind, fun i small y earlier => ?_⟩
        cases i with
        | zero =>
            cases earlier
            exact first
        | succ i => exact before i (by omega) y earlier

/-- The least position of a turn that failed. -/
def FirstFailed (taken : List (Turn α ε σ β)) (k : Nat) : Prop :=
  ∃ turn failure, taken[k]? = some turn ∧ turn.result = .error failure ∧
    ∀ i < k, ∀ earlier, taken[i]? = some earlier → ∃ value, earlier.result = .ok value

/-- All turns succeed, or there is a first one that failed. -/
theorem all_ok_or_firstFailed (taken : List (Turn α ε σ β)) :
    (∀ turn ∈ taken, ∃ value, turn.result = .ok value) ∨ ∃ k, FirstFailed taken k := by
  have succeeds : ∀ turn : Turn α ε σ β, (¬ ∃ failure, turn.result = .error failure) →
      ∃ value, turn.result = .ok value := by
    intro turn notFailed
    cases gave : turn.result with
    | error failure => exact absurd ⟨failure, gave⟩ notFailed
    | ok value => exact ⟨value, rfl⟩
  rcases exists_first (fun turn : Turn α ε σ β => ∃ failure, turn.result = .error failure) taken
    with none | ⟨k, turn, found, ⟨failure, gave⟩, earlier⟩
  · exact Or.inl fun turn member => succeeds turn (none turn member)
  · exact Or.inr ⟨k, turn, failure, found, gave,
      fun i small before at_i => succeeds before (earlier i small before at_i)⟩

end SinglePath
