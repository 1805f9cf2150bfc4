/-
**Recording calls changes nothing else.**

A toolchain and the same toolchain with a list of its calls answer alike, so what a check does with
the recorded tools is what it does with the plain ones, and the list tells which calls it made.

* `Records plain logged` — the action `logged` gives what `plain` gives and leaves the state that
  `plain` leaves; it appends to the list the calls `callsOf logged state`, whatever the list was;
* `Records.bind`, `Records.adaptExcept`, `records_noting` — the ways in which checks are put together;
* `CallsOnly kind plain logged` — besides, all calls are of one kind, with rules of the same form;
* `turns_recorded` — the turns of recorded actions, from those of the plain ones.
-/

import SinglePath.Proofs.Turns

namespace SinglePath

variable {α β ε ε' σ : Type}

/-- A result with a list of calls beside the state. -/
def withCalls (result : EStateM.Result ε σ α) (calls : List Call) :
    EStateM.Result ε (σ × List Call) α :=
  match result with
  | .ok value after => .ok value (after, calls)
  | .error failure after => .error failure (after, calls)

@[simp] theorem withCalls_ok (value : α) (after : σ) (calls : List Call) :
    withCalls (.ok value after : EStateM.Result ε σ α) calls = .ok value (after, calls) := rfl

@[simp] theorem withCalls_error (failure : ε) (after : σ) (calls : List Call) :
    withCalls (.error failure after : EStateM.Result ε σ α) calls = .error failure (after, calls) :=
  rfl

/-- The calls that an action makes from a state. -/
def callsOf (logged : EStateM ε (σ × List Call) α) (state : σ) : List Call :=
  match logged.run (state, []) with
  | .ok _ (_, calls) => calls
  | .error _ (_, calls) => calls

/-- An action that does what another one does and adds the calls it makes to the list. -/
def Records (plain : EStateM ε σ α) (logged : EStateM ε (σ × List Call) α) : Prop :=
  ∀ state calls,
    logged.run (state, calls) = withCalls (plain.run state) (calls ++ callsOf logged state)

/-- The calls of an action are the ones it adds to any list. -/
theorem callsOf_eq {plain : EStateM ε σ α} {logged : EStateM ε (σ × List Call) α} {state : σ}
    {made : List Call}
    (adds : ∀ calls, logged.run (state, calls) = withCalls (plain.run state) (calls ++ made)) :
    callsOf logged state = made := by
  unfold callsOf
  rw [adds [], List.nil_append]
  cases plain.run state <;> rfl

/-- An action that adds some calls to every list records the plain action. -/
theorem records_of_adds {plain : EStateM ε σ α} {logged : EStateM ε (σ × List Call) α}
    (made : σ → List Call)
    (adds : ∀ state calls,
      logged.run (state, calls) = withCalls (plain.run state) (calls ++ made state)) :
    Records plain logged := by
  intro state calls
  rw [adds, callsOf_eq (adds state)]

/-! ### How actions are put together -/

theorem records_pure (value : α) :
    Records (pure value : EStateM ε σ α) (pure value) := by
  refine records_of_adds (fun _ => []) fun state calls => ?_
  rw [List.append_nil]
  rfl

theorem records_throw (failure : ε) :
    Records (throw failure : EStateM ε σ α) (throw failure) := by
  refine records_of_adds (fun _ => []) fun state calls => ?_
  rw [List.append_nil]
  rfl

theorem run_noting (call : Call) (answer : EStateM ToolError σ α) (state : σ)
    (calls : List Call) :
    (Toolchain.noting call answer).run (state, calls) =
      withCalls (answer.run state) (calls ++ [call]) := by
  simp only [EStateM.run, Toolchain.noting]
  cases answer state <;> rfl

/-- A noted call is recorded. -/
theorem records_noting (call : Call) (answer : EStateM ToolError σ α) :
    Records answer (Toolchain.noting call answer) :=
  records_of_adds (fun _ => [call]) (run_noting call answer)

namespace Records

variable {plain : EStateM ε σ α} {logged : EStateM ε (σ × List Call) α}

theorem run_adaptExcept (records : Records plain logged) (wrap : ε → ε') (state : σ)
    (calls : List Call) :
    (EStateM.adaptExcept wrap logged).run (state, calls) =
      withCalls ((EStateM.adaptExcept wrap plain).run state) (calls ++ callsOf logged state) := by
  rw [EStateM.run_adaptExcept, EStateM.run_adaptExcept, records state calls]
  cases plain.run state <;> rfl

/-- Wrapping failures keeps the record. -/
theorem adaptExcept (records : Records plain logged) (wrap : ε → ε') :
    Records (EStateM.adaptExcept wrap plain) (EStateM.adaptExcept wrap logged) :=
  records_of_adds (callsOf logged) (records.run_adaptExcept wrap)

/-- The calls of the action after a result, if there is one. -/
def callsAfter (next : α → EStateM ε (σ × List Call) β) : EStateM.Result ε σ α → List Call
  | .ok value after => callsOf (next value) after
  | .error _ _ => []

theorem run_bind (records : Records plain logged) {next : α → EStateM ε σ β}
    {nextLogged : α → EStateM ε (σ × List Call) β}
    (nextRecords : ∀ value, Records (next value) (nextLogged value)) (state : σ)
    (calls : List Call) :
    (logged >>= nextLogged).run (state, calls) =
      withCalls ((plain >>= next).run state)
        (calls ++ (callsOf logged state ++ callsAfter nextLogged (plain.run state))) := by
  rw [EStateM.run_bind, EStateM.run_bind, records state calls]
  cases plain.run state with
  | ok value after =>
      simp only [withCalls_ok, callsAfter]
      rw [nextRecords value after, List.append_assoc]
  | error failure after => simp only [withCalls_error, callsAfter, List.append_nil]

/-- One recorded action after another is recorded: the calls are those of the first, then those of the
second. -/
theorem bind (records : Records plain logged) {next : α → EStateM ε σ β}
    {nextLogged : α → EStateM ε (σ × List Call) β}
    (nextRecords : ∀ value, Records (next value) (nextLogged value)) :
    Records (plain >>= next) (logged >>= nextLogged) :=
  records_of_adds _ (records.run_bind nextRecords)

end Records

/-! ### Which calls an action makes -/

/-- A recorded action that makes calls of one kind only. -/
structure CallsOnly (kind : Call → Prop) (plain : EStateM ε σ α)
    (logged : EStateM ε (σ × List Call) α) : Prop where
  records : Records plain logged
  ofKind : ∀ state, ∀ call ∈ callsOf logged state, kind call

theorem callsOnly_pure (kind : Call → Prop) (value : α) :
    CallsOnly kind (pure value : EStateM ε σ α) (pure value) :=
  ⟨records_pure value, fun _ _ member => absurd member List.not_mem_nil⟩

theorem callsOnly_throw (kind : Call → Prop) (failure : ε) :
    CallsOnly kind (throw failure : EStateM ε σ α) (throw failure) :=
  ⟨records_throw failure, fun _ _ member => absurd member List.not_mem_nil⟩

theorem callsOnly_noting {kind : Call → Prop} {call : Call} (isKind : kind call)
    (answer : EStateM ToolError σ α) : CallsOnly kind answer (Toolchain.noting call answer) := by
  refine ⟨records_noting call answer, fun state made member => ?_⟩
  rw [callsOf_eq (run_noting call answer state), List.mem_singleton] at member
  exact member ▸ isKind

namespace CallsOnly

variable {kind : Call → Prop} {plain : EStateM ε σ α} {logged : EStateM ε (σ × List Call) α}

theorem adaptExcept (calls : CallsOnly kind plain logged) (wrap : ε → ε') :
    CallsOnly kind (EStateM.adaptExcept wrap plain) (EStateM.adaptExcept wrap logged) := by
  refine ⟨calls.records.adaptExcept wrap, fun state call member => ?_⟩
  rw [callsOf_eq (calls.records.run_adaptExcept wrap state)] at member
  exact calls.ofKind state call member

/-- Actions that make calls of a kind only, one after the other, make no others. -/
theorem bind (calls : CallsOnly kind plain logged) {next : α → EStateM ε σ β}
    {nextLogged : α → EStateM ε (σ × List Call) β}
    (nextCalls : ∀ value, CallsOnly kind (next value) (nextLogged value)) :
    CallsOnly kind (plain >>= next) (logged >>= nextLogged) := by
  have nextRecords := fun value => (nextCalls value).records
  refine ⟨calls.records.bind nextRecords, fun state call member => ?_⟩
  rw [callsOf_eq (calls.records.run_bind nextRecords state), List.mem_append] at member
  rcases member with first | second
  · exact calls.ofKind state call first
  · cases ran : plain.run state with
    | ok value after =>
        rw [ran] at second
        exact (nextCalls value).ofKind after call second
    | error failure after =>
        rw [ran] at second
        cases second

end CallsOnly

/-! ### Turns of recorded actions -/

variable {action : α → EStateM ε σ β} {logged : α → EStateM ε (σ × List Call) β}

/-- The calls of a list of turns. -/
def callsOfTurns (logged : α → EStateM ε (σ × List Call) β) (taken : List (Turn α ε σ β)) :
    List Call :=
  taken.flatMap fun turn => callsOf (logged turn.item) turn.before

/-- A turn with the calls before it and those after it. -/
def Turn.withCalls (turn : Turn α ε σ β) (earlier later : List Call) :
    Turn α ε (σ × List Call) β :=
  ⟨turn.item, (turn.before, earlier), turn.result, (turn.after, later)⟩

theorem take_recorded (records : ∀ item, Records (action item) (logged item)) (item : α)
    (state : σ) (calls : List Call) :
    Turn.take logged item (state, calls) =
      (Turn.take action item state).withCalls calls (calls ++ callsOf (logged item) state) := by
  have logs := records item state calls
  cases ran : (action item).run state with
  | ok value after =>
      rw [ran, withCalls_ok] at logs
      rw [Turn.take_of_ok logs, Turn.take_of_ok ran]
      rfl
  | error failure after =>
      rw [ran, withCalls_error] at logs
      rw [Turn.take_of_error logs, Turn.take_of_error ran]
      rfl

/-- **Turns of recorded actions**: the same results and states, and beside each state the calls of
all turns up to it. -/
theorem turns_recorded (records : ∀ item, Records (action item) (logged item)) (items : List α)
    (state : σ) (calls : List Call) (k : Nat) :
    (turns logged items (state, calls))[k]? =
      (turns action items state)[k]?.map fun turn =>
        turn.withCalls (calls ++ callsOfTurns logged ((turns action items state).take k))
          (calls ++ callsOfTurns logged ((turns action items state).take (k + 1))) := by
  induction items generalizing state calls k with
  | nil => simp [turns]
  | cons item rest ih =>
      rw [turns, turns, take_recorded records]
      cases k with
      | zero => simp [callsOfTurns]
      | succ k =>
          simp only [List.getElem?_cons_succ, List.take_succ_cons, Turn.withCalls]
          rw [ih]
          simp [callsOfTurns, List.flatMap_cons, Turn.withCalls, List.append_assoc]

/-- Recording does not change what the turns give. -/
theorem results_recorded (records : ∀ item, Records (action item) (logged item)) (items : List α)
    (state : σ) (calls : List Call) :
    (turns logged items (state, calls)).map (fun turn => (turn.item, turn.result)) =
      (turns action items state).map fun turn => (turn.item, turn.result) := by
  apply List.ext_getElem?
  intro k
  rw [List.getElem?_map, List.getElem?_map, turns_recorded records, Option.map_map]
  rfl

theorem FirstFailed.recorded (records : ∀ item, Records (action item) (logged item))
    {items : List α} {state : σ} {k : Nat} (failed : FirstFailed (turns action items state) k)
    (calls : List Call) : FirstFailed (turns logged items (state, calls)) k := by
  obtain ⟨turn, failure, found, gave, earlier⟩ := failed
  have logs := turns_recorded records items state calls
  refine ⟨_, failure, (logs k).trans (by rw [found]; rfl), gave, fun i small before' found' => ?_⟩
  rw [logs i] at found'
  obtain ⟨before, at_i, rfl⟩ := Option.map_eq_some_iff.mp found'
  exact earlier i small before at_i

/-- The state that recorded turns leave is the plain one, with all calls beside it. -/
theorem stateAfter_recorded (records : ∀ item, Records (action item) (logged item))
    (items : List α) (state : σ) (calls : List Call) :
    stateAfter (state, calls) (turns logged items (state, calls)) =
      (stateAfter state (turns action items state),
        calls ++ callsOfTurns logged (turns action items state)) := by
  induction items generalizing state calls with
  | nil => simp [turns, stateAfter, callsOfTurns]
  | cons item rest ih =>
      rw [turns, turns, stateAfter_cons, stateAfter_cons, take_recorded records]
      simp only [Turn.withCalls]
      rw [ih]
      simp [callsOfTurns, List.append_assoc]

end SinglePath
