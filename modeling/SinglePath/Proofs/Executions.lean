/-
**What a check of executions decides.**

A check executes the arguments in order and compares with the first execution only. It is described
by the executions that the same tools give when nothing stops them, `turns (execute tools program)`:

* `checkRest_passed`, `checkRest_stopped` — the executions after the first: all of them pass, or the
  first that does not pass ends the check;
* `checkExecutions_passed`, `checkExecutions_stopped` — the whole check;
* `checkExecutions_decides` — the check passes exactly when every execution succeeds and, for
  single-path code, any two of them have the same text. Otherwise it ends with the first execution that
  failed or differs from the first one, and nothing after that is linked or simulated.
-/

import SinglePath.Check.Equivalence
import SinglePath.Proofs.Recording

namespace SinglePath

variable {σ : Type}

/-- An execution with what it gave. -/
abbrev Execution (σ : Type) : Type := Turn ExecutionArgument ExecutionFailure σ Statistics

/-! ### One execution -/

/-- A program ended wrongly, or its report cannot be read, or it gives statistics. -/
theorem statistics_cases (run : SimulatorRun) (program : String) (argument : ExecutionArgument) :
    (run.exitCode ≠ some argument.expected ∧
      run.statistics program argument =
        .error (.wrongResult program argument.input argument.expected run)) ∨
    (∃ cause, run.exitCode = some argument.expected ∧
      Statistics.ofReport run.stderr = .error cause ∧
      run.statistics program argument =
        .error (.noStatistics program argument.input run.stderr cause)) ∨
    ∃ statistics, run.exitCode = some argument.expected ∧
      Statistics.ofReport run.stderr = .ok statistics ∧
      run.statistics program argument = .ok statistics := by
  unfold SimulatorRun.statistics
  by_cases expected : run.exitCode = some argument.expected
  · rw [if_pos expected]
    cases read : Statistics.ofReport run.stderr with
    | error cause => exact Or.inr (Or.inl ⟨cause, expected, rfl, rfl⟩)
    | ok statistics => exact Or.inr (Or.inr ⟨statistics, expected, rfl, rfl⟩)
  · rw [if_neg expected]
    exact Or.inl ⟨expected, rfl⟩

/-- A tool that must report success cannot be started, or does not report it, or does. -/
theorem run_require {ε : Type} (tool : EStateM ToolError σ ToolRun) (missing : ToolError → ε)
    (failed : String → ε) (state : σ) :
    (require tool missing failed).run state =
      match tool.run state with
      | .error error after => .error (missing error) after
      | .ok ended after =>
        if ended.success then .ok () after else .error (failed ended.stderr) after := by
  simp only [require, EStateM.run_bind, EStateM.run_adaptExcept]
  cases tool.run state with
  | error error after => rfl
  | ok ended after =>
      obtain ⟨success, stderr⟩ := ended
      cases success <;> rfl

/-- An execution is a link and, if that succeeds, a simulation whose report is read. -/
theorem run_execute (tools : Toolchain σ) (program : String) (argument : ExecutionArgument)
    (state : σ) :
    (execute tools program argument).run state =
      match (tools.link program argument.input (executablePath program argument.input)).run state with
      | .error cause after => .error (.tool cause) after
      | .ok linked after =>
        if linked.success then
          match (tools.simulate (executablePath program argument.input)).run after with
          | .error cause final => .error (.tool cause) final
          | .ok simulated final =>
            match simulated.statistics program argument with
            | .ok statistics => .ok statistics final
            | .error failure => .error failure final
        else .error (.notLinked program argument.input linked.stderr) after := by
  simp only [execute, EStateM.run_bind, run_require]
  cases (tools.link program argument.input (executablePath program argument.input)).run state with
  | error cause after => rfl
  | ok linked after =>
      obtain ⟨success, stderr⟩ := linked
      cases success with
      | false => rfl
      | true =>
          simp only [if_true, EStateM.run_adaptExcept]
          cases (tools.simulate (executablePath program argument.input)).run after with
          | error cause final => rfl
          | ok simulated final =>
              dsimp only
              cases simulated.statistics program argument <;> rfl

/-- The calls of an execution: it is linked, and then simulated unless linking failed. -/
def executionCalls (tools : Toolchain σ) (program : String) (argument : ExecutionArgument)
    (state : σ) : List Call :=
  .link program argument.input (executablePath program argument.input) ::
    match (tools.link program argument.input (executablePath program argument.input)).run state with
    | .ok linked _ =>
      if linked.success then [.simulate (executablePath program argument.input)] else []
    | .error _ _ => []

theorem run_execute_recorded (tools : Toolchain σ) (program : String)
    (argument : ExecutionArgument) (state : σ) (calls : List Call) :
    (execute tools.recorded program argument).run (state, calls) =
      withCalls ((execute tools program argument).run state)
        (calls ++ executionCalls tools program argument state) := by
  rw [run_execute, run_execute]
  simp only [Toolchain.recorded, run_noting, executionCalls]
  cases (tools.link program argument.input (executablePath program argument.input)).run state with
  | error cause after => rfl
  | ok linked after =>
      obtain ⟨success, stderr⟩ := linked
      cases success with
      | false => rfl
      | true =>
          simp only [withCalls_ok, if_true, run_noting]
          cases (tools.simulate (executablePath program argument.input)).run after with
          | error cause final => simp
          | ok simulated final =>
              simp only [withCalls_ok]
              cases simulated.statistics program argument <;> simp

/-- An execution with recorded tools is the execution, recorded. -/
theorem records_execute (tools : Toolchain σ) (program : String) (argument : ExecutionArgument) :
    Records (execute tools program argument) (execute tools.recorded program argument) :=
  records_of_adds _ (run_execute_recorded tools program argument)

theorem callsOf_execute (tools : Toolchain σ) (program : String) (argument : ExecutionArgument)
    (state : σ) :
    callsOf (execute tools.recorded program argument) state =
      executionCalls tools program argument state :=
  callsOf_eq (run_execute_recorded tools program argument state)

/-! ### The executions after the first -/

/-- An execution that a check against `reference` lets pass. -/
def Turn.Passes (run : Execution σ) (singlePath : Bool) (reference : Statistics) : Prop :=
  ∃ statistics, run.result = .ok statistics ∧
    (singlePath = true → statistics.text = reference.text)

/-- An execution that ends a check against the execution `reference` of `first`, and how. -/
inductive Turn.Stops (program : String) (singlePath : Bool) (first : ExecutionArgument)
    (reference : Statistics) (run : Execution σ) : TestFailure → Prop where
  | failed {failure : ExecutionFailure} (gave : run.result = .error failure) :
      Stops program singlePath first reference run (.execution failure)
  | diverged {statistics : Statistics} (compared : singlePath = true)
      (gave : run.result = .ok statistics) (differs : statistics.text ≠ reference.text) :
      Stops program singlePath first reference run
        (.divergence (.between program first run.item reference statistics))

section Stops

variable {program : String} {singlePath : Bool} {first : ExecutionArgument}
  {reference : Statistics} {run : Execution σ} {failure : TestFailure}

/-- An execution that failed ends the check with its own failure. -/
theorem Turn.Stops.failure_of_error (stops : run.Stops program singlePath first reference failure)
    {cause : ExecutionFailure} (gave : run.result = .error cause) : failure = .execution cause := by
  cases stops with
  | failed known =>
      rw [gave] at known
      cases known
      rfl
  | diverged _ known _ =>
      rw [gave] at known
      cases known

/-- An execution that succeeded ends the check with its difference from the first one. -/
theorem Turn.Stops.failure_of_ok (stops : run.Stops program singlePath first reference failure)
    {statistics : Statistics} (gave : run.result = .ok statistics) :
    failure = .divergence (.between program first run.item reference statistics) := by
  cases stops with
  | failed known =>
      rw [gave] at known
      cases known
  | diverged _ known _ =>
      rw [gave] at known
      cases known
      rfl

end Stops

theorem agrees_iff (s t : Statistics) : s.agrees t = true ↔ s.text = t.text := by
  unfold Statistics.agrees
  exact beq_iff_eq

section Rest

variable {tools : Toolchain σ} {program : String} {singlePath : Bool} {first : ExecutionArgument}
  {reference : Statistics}

/-- An execution that passes is counted if it was compared, and the check goes on. -/
theorem checkRest_cons_of_passes {argument : ExecutionArgument} {rest : List ExecutionArgument}
    {state : σ}
    (passes : (Turn.take (execute tools program) argument state).Passes singlePath reference) :
    (checkRest tools program singlePath first reference (argument :: rest)).run state =
      (do
        let compared ← checkRest tools program singlePath first reference rest
        return if singlePath then compared + 1 else compared).run
        (Turn.take (execute tools program) argument state).after := by
  obtain ⟨statistics, gave, same⟩ := passes
  rw [checkRest, EStateM.run_bind, EStateM.run_adaptExcept, Turn.run_of_take_ok gave]
  have goesOn : (singlePath && !statistics.agrees reference) = false := by
    cases singlePath with
    | false => rfl
    | true => simpa using (agrees_iff _ _).mpr (same rfl)
  simp only [goesOn, Bool.false_eq_true, if_false]

/-- An execution that stops the check ends it with its own failure. -/
theorem checkRest_cons_of_stops {argument : ExecutionArgument} {rest : List ExecutionArgument}
    {state : σ} {failure : TestFailure}
    (stops : (Turn.take (execute tools program) argument state).Stops program singlePath first
      reference failure) :
    (checkRest tools program singlePath first reference (argument :: rest)).run state =
      .error failure (Turn.take (execute tools program) argument state).after := by
  rw [checkRest, EStateM.run_bind, EStateM.run_adaptExcept]
  cases stops with
  | failed gave => rw [Turn.run_of_take_error gave]
  | @diverged statistics compared gave differs =>
      rw [Turn.run_of_take_ok gave]
      have ends : (singlePath && !statistics.agrees reference) = true := by
        rw [compared, Bool.true_and, Bool.not_eq_true', Bool.eq_false_iff]
        exact fun agree => differs ((agrees_iff _ _).mp agree)
      simp only [ends, if_true, Turn.take_item]
      rfl

/-- Executions that all pass are all counted, if they were compared. -/
theorem checkRest_passed {rest : List ExecutionArgument} {state : σ}
    (pass : ∀ run ∈ turns (execute tools program) rest state, run.Passes singlePath reference) :
    (checkRest tools program singlePath first reference rest).run state =
      .ok (if singlePath then rest.length else 0)
        (stateAfter state (turns (execute tools program) rest state)) := by
  induction rest generalizing state with
  | nil => cases singlePath <;> rfl
  | cons argument rest ih =>
      rw [turns] at pass ⊢
      rw [checkRest_cons_of_passes (pass _ (List.mem_cons_self ..)), EStateM.run_bind,
        ih fun run member => pass run (List.mem_cons_of_mem _ member), stateAfter_cons]
      cases singlePath <;> rfl

/-- The first execution that stops the check ends it. -/
theorem checkRest_stopped {rest : List ExecutionArgument} {state : σ} {k : Nat}
    {run : Execution σ} {failure : TestFailure}
    (found : (turns (execute tools program) rest state)[k]? = some run)
    (stops : run.Stops program singlePath first reference failure)
    (pass : ∀ i < k, ∀ earlier, (turns (execute tools program) rest state)[i]? = some earlier →
      earlier.Passes singlePath reference) :
    (checkRest tools program singlePath first reference rest).run state =
      .error failure run.after := by
  induction rest generalizing state k with
  | nil => simp [turns] at found
  | cons argument rest ih =>
      rw [turns] at found pass
      cases k with
      | zero =>
          cases found
          exact checkRest_cons_of_stops stops
      | succ k =>
          rw [checkRest_cons_of_passes (pass 0 (Nat.succ_pos k) _ rfl), EStateM.run_bind,
            ih found fun i small earlier => pass (i + 1) (Nat.succ_lt_succ small) earlier]

end Rest

/-! ### The whole check -/

/-- An execution that a check against the execution `reference` does not let pass: it failed, or the
code is single-path and the two texts differ. -/
def Turn.Rejected (run : Execution σ) (singlePath : Bool) (reference : Execution σ) : Prop :=
  (∃ failure, run.result = .error failure) ∨
    singlePath = true ∧
      ∃ s t, reference.result = .ok s ∧ run.result = .ok t ∧ t.text ≠ s.text

/-- The least position of an execution that a check against the first one does not let pass. -/
def FirstRejected (singlePath : Bool) (runs : List (Execution σ)) (k : Nat) : Prop :=
  ∃ reference run, runs[0]? = some reference ∧ runs[k]? = some run ∧
    run.Rejected singlePath reference ∧
    ∀ i < k, ∀ earlier, runs[i]? = some earlier → ¬ earlier.Rejected singlePath reference

/-- An execution either passes or is rejected. -/
theorem not_rejected_iff {singlePath : Bool} {reference run : Execution σ} {s : Statistics}
    (known : reference.result = .ok s) :
    ¬ run.Rejected singlePath reference ↔ run.Passes singlePath s := by
  unfold Turn.Rejected Turn.Passes
  cases gave : run.result with
  | error failure => simp
  | ok t =>
      cases singlePath with
      | false => simp
      | true => simp [known]

/-- An execution that is rejected stops the check. -/
theorem stops_of_rejected {singlePath : Bool} {reference run : Execution σ} {s : Statistics}
    (known : reference.result = .ok s) (rejected : run.Rejected singlePath reference)
    (program : String) (first : ExecutionArgument) :
    ∃ failure, run.Stops program singlePath first s failure := by
  rcases rejected with ⟨failure, gave⟩ | ⟨compared, s', t, known', gave, differs⟩
  · exact ⟨_, .failed gave⟩
  · rw [known] at known'
    cases known'
    exact ⟨_, .diverged compared gave differs⟩

section Whole

variable {tools : Toolchain σ} {program : String} {first : ExecutionArgument}
  {rest : List ExecutionArgument} {singlePath : Bool} {state : σ}

/-- A first execution that fails ends the check. -/
theorem checkExecutions_of_first_failed {failure : ExecutionFailure}
    (failed : (Turn.take (execute tools program) first state).result = .error failure) :
    (checkExecutions tools program (first :: rest) singlePath).run state =
      .error (.execution failure) (Turn.take (execute tools program) first state).after := by
  rw [checkExecutions, EStateM.run_bind, EStateM.run_adaptExcept, Turn.run_of_take_error failed]

/-- Executions that all pass make the check pass. -/
theorem checkExecutions_passed {reference : Statistics}
    (known : (Turn.take (execute tools program) first state).result = .ok reference)
    (pass : ∀ run ∈ turns (execute tools program) (first :: rest) state,
      run.Passes singlePath reference) :
    (checkExecutions tools program (first :: rest) singlePath).run state =
      .ok ⟨reference, rest.length + 1, if singlePath then rest.length else 0⟩
        (stateAfter state (turns (execute tools program) (first :: rest) state)) := by
  rw [turns] at pass ⊢
  rw [checkExecutions, EStateM.run_bind, EStateM.run_adaptExcept, Turn.run_of_take_ok known]
  simp only [EStateM.run_bind]
  rw [checkRest_passed fun run member => pass run (List.mem_cons_of_mem _ member), stateAfter_cons]
  rfl

/-- The first execution after a successful one that stops the check ends it. -/
theorem checkExecutions_stopped {reference : Statistics} {k : Nat} {run : Execution σ}
    {failure : TestFailure}
    (known : (Turn.take (execute tools program) first state).result = .ok reference)
    (found : (turns (execute tools program) (first :: rest) state)[k + 1]? = some run)
    (stops : run.Stops program singlePath first reference failure)
    (pass : ∀ i < k + 1, ∀ earlier,
      (turns (execute tools program) (first :: rest) state)[i]? = some earlier →
        earlier.Passes singlePath reference) :
    (checkExecutions tools program (first :: rest) singlePath).run state =
      .error failure run.after := by
  rw [turns] at found pass
  rw [checkExecutions, EStateM.run_bind, EStateM.run_adaptExcept, Turn.run_of_take_ok known]
  simp only [EStateM.run_bind]
  rw [checkRest_stopped found stops
    fun i small earlier => pass (i + 1) (Nat.succ_lt_succ small) earlier]

/-- Executions of which none is rejected make the check pass. -/
theorem checkExecutions_of_none_rejected
    (none : ∀ run ∈ turns (execute tools program) (first :: rest) state,
      ¬ run.Rejected singlePath (Turn.take (execute tools program) first state)) :
    ∃ reference, (Turn.take (execute tools program) first state).result = .ok reference ∧
      (checkExecutions tools program (first :: rest) singlePath).run state =
        .ok ⟨reference, rest.length + 1, if singlePath then rest.length else 0⟩
          (stateAfter state (turns (execute tools program) (first :: rest) state)) := by
  cases known : (Turn.take (execute tools program) first state).result with
  | error failure => exact absurd (Or.inl ⟨failure, known⟩) (none _ (List.mem_cons_self ..))
  | ok reference =>
      refine ⟨reference, rfl, checkExecutions_passed known fun run member => ?_⟩
      exact (not_rejected_iff known).mp (none run member)

/-- The first execution that is rejected ends the check with its own failure, or with its difference
from the first one. -/
theorem checkExecutions_of_firstRejected {k : Nat}
    (rejected : FirstRejected singlePath (turns (execute tools program) (first :: rest) state) k) :
    ∃ run failure, (turns (execute tools program) (first :: rest) state)[k]? = some run ∧
      (checkExecutions tools program (first :: rest) singlePath).run state =
        .error failure run.after ∧
      (∀ cause, run.result = .error cause → failure = .execution cause) ∧
      ∀ statistics, run.result = .ok statistics → ∃ reference,
        (Turn.take (execute tools program) first state).result = .ok reference ∧
        failure = .divergence (.between program first run.item reference statistics) := by
  obtain ⟨_, run, isFirst, found, isRejected, earlier⟩ := rejected
  cases isFirst
  cases known : (Turn.take (execute tools program) first state).result with
  | error failure =>
      -- the first execution is rejected itself, so it is the one found
      have position : k = 0 := by
        rcases Nat.eq_zero_or_pos k with zero | later
        · exact zero
        · exact absurd (Or.inl ⟨failure, known⟩) (earlier 0 later _ rfl)
      subst position
      cases found
      refine ⟨_, _, rfl, checkExecutions_of_first_failed known, ?_, ?_⟩
      · intro cause gave
        rw [known] at gave
        cases gave
        rfl
      · intro statistics gave
        rw [known] at gave
        cases gave
  | ok reference =>
      obtain ⟨failure, stops⟩ := stops_of_rejected known isRejected program first
      have pass : ∀ i < k, ∀ run,
          (turns (execute tools program) (first :: rest) state)[i]? = some run →
            run.Passes singlePath reference :=
        fun i small run at_i => (not_rejected_iff known).mp (earlier i small run at_i)
      cases k with
      | zero =>
          cases found
          exact absurd isRejected ((not_rejected_iff known).mpr ⟨reference, known, fun _ => rfl⟩)
      | succ k =>
          exact ⟨run, failure, found, checkExecutions_stopped known found stops pass,
            fun _ gave => stops.failure_of_error gave,
            fun _ gave => ⟨reference, rfl, stops.failure_of_ok gave⟩⟩

/-- Either no execution is rejected, or there is a first one that is. -/
theorem none_or_firstRejected (tools : Toolchain σ) (program : String) (first : ExecutionArgument)
    (rest : List ExecutionArgument) (singlePath : Bool) (state : σ) :
    (∀ run ∈ turns (execute tools program) (first :: rest) state,
      ¬ run.Rejected singlePath (Turn.take (execute tools program) first state)) ∨
    ∃ k, FirstRejected singlePath (turns (execute tools program) (first :: rest) state) k := by
  rcases exists_first (fun run : Execution σ =>
      run.Rejected singlePath (Turn.take (execute tools program) first state))
    (turns (execute tools program) (first :: rest) state) with none | ⟨k, run, found, rejected, earlier⟩
  · exact Or.inl none
  · exact Or.inr ⟨k, _, run, rfl, found, rejected, earlier⟩

/-- A check passes when no execution is rejected, and only then. -/
theorem checkExecutions_ok_iff :
    (∃ outcome after,
      (checkExecutions tools program (first :: rest) singlePath).run state = .ok outcome after) ↔
    ∀ run ∈ turns (execute tools program) (first :: rest) state,
      ¬ run.Rejected singlePath (Turn.take (execute tools program) first state) := by
  constructor
  · rintro ⟨outcome, after, passed⟩
    rcases none_or_firstRejected tools program first rest singlePath state with none | ⟨k, rejected⟩
    · exact none
    · obtain ⟨run, failure, _, stopped, _⟩ := checkExecutions_of_firstRejected rejected
      rw [stopped] at passed
      cases passed
  · intro none
    obtain ⟨reference, _, passed⟩ := checkExecutions_of_none_rejected none
    exact ⟨_, _, passed⟩

/-- A check fails when there is a first execution that is rejected, and only then. -/
theorem checkExecutions_error_iff :
    (∃ failure after,
      (checkExecutions tools program (first :: rest) singlePath).run state = .error failure after) ↔
    ∃ k, FirstRejected singlePath (turns (execute tools program) (first :: rest) state) k := by
  constructor
  · rintro ⟨failure, after, failed⟩
    rcases none_or_firstRejected tools program first rest singlePath state with none | rejected
    · obtain ⟨reference, _, passed⟩ := checkExecutions_of_none_rejected none
      rw [passed] at failed
      cases failed
    · exact rejected
  · rintro ⟨k, rejected⟩
    obtain ⟨run, failure, _, stopped, _⟩ := checkExecutions_of_firstRejected rejected
    exact ⟨_, _, stopped⟩

/-- Without comparison no divergence is found. -/
theorem checkExecutions_ne_divergence (found : Divergence) (after : σ) :
    (checkExecutions tools program (first :: rest) false).run state ≠
      .error (.divergence found) after := by
  intro diverged
  obtain ⟨k, rejected⟩ := checkExecutions_error_iff.mp ⟨_, _, diverged⟩
  obtain ⟨run, failure, atK, stopped, byFailure, _⟩ := checkExecutions_of_firstRejected rejected
  obtain ⟨_, run', _, atK', isRejected, _⟩ := rejected
  rw [atK] at atK'
  cases atK'
  rw [diverged] at stopped
  cases stopped
  rcases isRejected with ⟨cause, gave⟩ | ⟨compared, _⟩
  · cases byFailure cause gave
  · cases compared

end Whole

/-- **Equal to the first is equal pairwise**: no execution is rejected exactly when all succeed and, for
single-path code, any two of them have the same text. -/
theorem none_rejected_iff {singlePath : Bool} {reference : Execution σ}
    {runs : List (Execution σ)} :
    (∀ run ∈ reference :: runs, ¬ run.Rejected singlePath reference) ↔
      (∀ run ∈ reference :: runs, ∃ statistics, run.result = .ok statistics) ∧
      (singlePath = true → ∀ a ∈ reference :: runs, ∀ b ∈ reference :: runs, ∀ s t,
        a.result = .ok s → b.result = .ok t → s.text = t.text) := by
  constructor
  · intro none
    have succeeds : ∀ run ∈ reference :: runs, ∃ statistics, run.result = .ok statistics := by
      intro run member
      cases gave : run.result with
      | error failure => exact absurd (Or.inl ⟨failure, gave⟩) (none run member)
      | ok statistics => exact ⟨statistics, rfl⟩
    obtain ⟨s₀, known⟩ := succeeds reference (List.mem_cons_self ..)
    have toFirst : singlePath = true → ∀ run ∈ reference :: runs, ∀ s,
        run.result = .ok s → s.text = s₀.text := by
      intro compared run member s gave
      obtain ⟨s', gave', same⟩ := (not_rejected_iff known).mp (none run member)
      rw [gave] at gave'
      cases gave'
      exact same compared
    refine ⟨succeeds, fun compared a memberA b memberB s t gaveA gaveB => ?_⟩
    exact (toFirst compared a memberA s gaveA).trans (toFirst compared b memberB t gaveB).symm
  · rintro ⟨succeeds, pairwise⟩ run member
    obtain ⟨s₀, known⟩ := succeeds reference (List.mem_cons_self ..)
    obtain ⟨s, gave⟩ := succeeds run member
    refine (not_rejected_iff known).mpr ⟨s, gave, fun compared => ?_⟩
    exact pairwise compared run member reference (List.mem_cons_self ..) s s₀ gave known

/-! ### The calls of a check -/

theorem callsOnly_require {kind : Call → Prop} {run : EStateM ToolError σ ToolRun}
    {logged : EStateM ToolError (σ × List Call) ToolRun} (calls : CallsOnly kind run logged)
    {ε : Type} (missing : ToolError → ε) (failed : String → ε) :
    CallsOnly kind (require run missing failed) (require logged missing failed) := by
  refine (calls.adaptExcept _).bind fun ended => ?_
  split
  · exact callsOnly_throw kind _
  · exact callsOnly_pure kind _

section Calls

variable {kind : Call → Prop} (links : ∀ object input output, kind (.link object input output))
  (simulates : ∀ executable, kind (.simulate executable)) (tools : Toolchain σ) (program : String)

include links simulates

theorem callsOnly_execute (argument : ExecutionArgument) :
    CallsOnly kind (execute tools program argument) (execute tools.recorded program argument) := by
  refine (callsOnly_require (callsOnly_noting (links ..) _) _ _).bind fun _ => ?_
  refine ((callsOnly_noting (simulates _) _).adaptExcept _).bind fun run => ?_
  split
  · exact callsOnly_pure kind _
  · exact callsOnly_throw kind _

theorem callsOnly_checkRest (singlePath : Bool) (first : ExecutionArgument) (reference : Statistics)
    (rest : List ExecutionArgument) :
    CallsOnly kind (checkRest tools program singlePath first reference rest)
      (checkRest tools.recorded program singlePath first reference rest) := by
  induction rest with
  | nil => exact callsOnly_pure kind 0
  | cons argument rest ih =>
      have executes := callsOnly_execute links simulates tools program argument
      refine (executes.adaptExcept _).bind fun statistics => ?_
      dsimp only
      split
      · exact (callsOnly_throw kind _).bind fun _ => ih.bind fun _ => callsOnly_pure kind _
      · exact ih.bind fun _ => callsOnly_pure kind _

/-- A check of executions links and simulates only. -/
theorem callsOnly_checkExecutions (arguments : List ExecutionArgument) (singlePath : Bool) :
    CallsOnly kind (checkExecutions tools program arguments singlePath)
      (checkExecutions tools.recorded program arguments singlePath) := by
  cases arguments with
  | nil => exact callsOnly_throw kind _
  | cons first rest =>
      have executes := callsOnly_execute links simulates tools program first
      refine (executes.adaptExcept _).bind fun reference => ?_
      exact (callsOnly_checkRest links simulates tools program singlePath first reference rest).bind
        fun compared => callsOnly_pure kind _

end Calls

/-- A check with recorded tools is the check, recorded. -/
theorem records_checkExecutions (tools : Toolchain σ) (program : String)
    (arguments : List ExecutionArgument) (singlePath : Bool) :
    Records (checkExecutions tools program arguments singlePath)
      (checkExecutions tools.recorded program arguments singlePath) := by
  have calls : CallsOnly (fun _ => True) _ _ := callsOnly_checkExecutions (fun _ _ _ => trivial)
    (fun _ => trivial) tools program arguments singlePath
  exact calls.records

/-- Recording the calls does not change which execution is the first to be rejected. -/
theorem FirstRejected.recorded {tools : Toolchain σ} {program : String}
    {arguments : List ExecutionArgument} {singlePath : Bool} {state : σ} {k : Nat}
    (rejected : FirstRejected singlePath (turns (execute tools program) arguments state) k)
    (calls : List Call) :
    FirstRejected singlePath (turns (execute tools.recorded program) arguments (state, calls)) k := by
  obtain ⟨reference, run, isFirst, found, isRejected, earlier⟩ := rejected
  have logged := turns_recorded (records_execute tools program) arguments state calls
  refine ⟨_, _, (logged 0).trans (by rw [isFirst]; rfl), (logged k).trans (by rw [found]; rfl),
    isRejected, fun i small run' found' => ?_⟩
  rw [logged i] at found'
  obtain ⟨run, at_i, rfl⟩ := Option.map_eq_some_iff.mp found'
  exact earlier i small run at_i

/-- **What a check of executions decides.** It passes exactly when every execution succeeds and, for
single-path code, any two of them have the same text. Otherwise the first execution that failed, or
differs from the first one, ends it, and no later one is linked or simulated. -/
theorem checkExecutions_decides (tools : Toolchain σ) (program : String)
    (first : ExecutionArgument) (rest : List ExecutionArgument) (singlePath : Bool) (state : σ) :
    let arguments := first :: rest
    let runs := turns (execute tools program) arguments state
    let check := (checkExecutions tools program arguments singlePath).run state
    ((∃ outcome after, check = .ok outcome after) ↔
      (∀ run ∈ runs, ∃ statistics, run.result = .ok statistics) ∧
      (singlePath = true → ∀ a ∈ runs, ∀ b ∈ runs, ∀ s t,
        a.result = .ok s → b.result = .ok t → s.text = t.text)) ∧
    (∀ outcome after, check = .ok outcome after →
      runs.head?.map Turn.result = some (.ok outcome.reference) ∧
      outcome.executions = arguments.length ∧
      outcome.compared = (if singlePath then arguments.length - 1 else 0)) ∧
    ((∃ failure after, check = .error failure after) ↔ ∃ k, FirstRejected singlePath runs k) ∧
    (∀ k, FirstRejected singlePath runs k → ∃ candidate run failure,
      arguments[k]? = some candidate ∧ runs[k]? = some run ∧ check = .error failure run.after ∧
      (∀ cause, run.result = .error cause → failure = .execution cause) ∧
      (∀ statistics, run.result = .ok statistics → ∃ reference,
        runs.head?.map Turn.result = some (.ok reference) ∧
        failure = .divergence
          { program, reference := first, candidate, referenceStatistics := reference,
            candidateStatistics := statistics,
            diff := Diff.unified reference.text statistics.text first.text candidate.text }) ∧
      ∀ calls, (checkExecutions tools.recorded program arguments singlePath).run (state, calls) =
        .error failure (run.after, calls ++
          (runs.take (k + 1)).flatMap fun run => executionCalls tools program run.item run.before)) ∧
    (singlePath = false → ∀ found after, check ≠ .error (.divergence found) after) := by
  intro arguments runs check
  refine ⟨checkExecutions_ok_iff.trans none_rejected_iff, ?_, checkExecutions_error_iff, ?_, ?_⟩
  · intro outcome after passed
    obtain ⟨reference, known, passed'⟩ :=
      checkExecutions_of_none_rejected (checkExecutions_ok_iff.mp ⟨outcome, after, passed⟩)
    cases passed.symm.trans passed'
    exact ⟨congrArg some known, rfl, rfl⟩
  · intro k rejected
    obtain ⟨run, failure, found, stopped, byFailure, byDivergence⟩ :=
      checkExecutions_of_firstRejected rejected
    refine ⟨run.item, run, failure, item_of_getElem? found, found, stopped, byFailure, ?_, ?_⟩
    · intro statistics gave
      obtain ⟨reference, known, diverged⟩ := byDivergence statistics gave
      exact ⟨reference, congrArg some known, diverged⟩
    · intro calls
      obtain ⟨logged, failure', foundLogged, stoppedLogged, _⟩ :=
        checkExecutions_of_firstRejected (rejected.recorded calls)
      rw [turns_recorded (records_execute tools program), found] at foundLogged
      cases foundLogged
      have same := records_checkExecutions tools program arguments singlePath state calls
      rw [stoppedLogged, stopped, withCalls_error] at same
      injection same with sameFailure
      rw [stoppedLogged, sameFailure]
      simp only [Turn.withCalls, callsOfTurns, callsOf_execute]
      rfl
  · rintro rfl found after
    exact checkExecutions_ne_divergence found after

end SinglePath
