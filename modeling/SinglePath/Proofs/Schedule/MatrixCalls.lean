/-
**The calls of a matrix run.**

A run is three loops inside each other, over configurations, arguments and the tools of one execution,
each of which can end early. It is the same as one loop over the steps of the schedule:

* `foldlM_executionSteps`, `ending_checkRest`, `ending_checkConfiguration` — each loop takes the steps that
  belong to it;
* `ending_checkMatrix` — a whole run ends as the steps of its schedule do;
* `checkMatrix_follows_schedule` — the calls of a run are those of the schedule up to the first answer
  that is rejected, or all of them.
-/

import SinglePath.Proofs.MatrixRun
import SinglePath.Proofs.Schedule.Steps

namespace SinglePath

variable {σ : Type}

/-! ### A matrix run takes the steps of its schedule -/

/-- How an action ended: its failure if it failed, and the state it left. -/
def ending {α ε σ : Type} : EStateM.Result ε σ α → Except ε Unit × σ
  | .ok _ after => (.ok (), after)
  | .error failure after => (.error failure, after)

theorem ending_eq_ok_iff {α ε : Type} {result : EStateM.Result ε σ α} {after : σ} :
    ending result = (.ok (), after) ↔ ∃ value, result = .ok value after := by
  cases result <;> simp [ending]

theorem ending_eq_error_iff {α ε : Type} {result : EStateM.Result ε σ α} {failure : ε} {after : σ} :
    ending result = (.error failure, after) ↔ result = .error failure after := by
  cases result <;> simp [ending]

/-- A value worked out at the end does not change how an action ended. -/
theorem ending_bind_pure {α β ε : Type} (action : EStateM ε σ α) (f : α → β) (state : σ) :
    ending ((action >>= fun value => pure (f value)).run state) = ending (action.run state) := by
  rw [EStateM.run_bind]
  cases action.run state <;> rfl

/-- Two actions that go on alike after the same beginning end alike. -/
theorem ending_bind_congr {α β γ ε : Type} (action : EStateM ε σ α) {next : α → EStateM ε σ β}
    {other : α → EStateM ε σ γ}
    (alike : ∀ value after, ending ((next value).run after) = ending ((other value).run after))
    (state : σ) : ending ((action >>= next).run state) = ending ((action >>= other).run state) := by
  rw [EStateM.run_bind, EStateM.run_bind]
  cases action.run state with
  | ok value after => exact alike value after
  | error failure after => rfl

section Schedule

variable (tools : Toolchain σ) (program : Program) (c : Configuration)

/-- An execution is its two steps. -/
theorem foldlM_executionSteps (argument : ExecutionArgument) (reference : Reference) (state : σ) :
    ((executionSteps c argument).foldlM (Step.perform tools program) reference).run state =
      (EStateM.adaptExcept .execution (execute tools program.compiled argument) >>=
        compareWith program c argument reference).run state := by
  simp only [executionSteps, List.foldlM_cons, List.foldlM_nil, bind_pure, Step.perform,
    EStateM.run_bind, EStateM.run_adaptExcept, run_execute, run_require]
  cases (tools.link program.compiled argument.input
    (executablePath program.compiled argument.input)).run state with
  | error error after => rfl
  | ok linked after =>
      obtain ⟨success, stderr⟩ := linked
      cases success with
      | false => rfl
      | true =>
          simp only [if_true, EStateM.run_pure]
          cases (tools.simulate (executablePath program.compiled argument.input)).run after with
          | error error final => rfl
          | ok run final =>
              dsimp only
              cases run.statistics program.compiled argument <;> rfl

/-- The executions after the first are their steps. -/
theorem ending_checkRest (first : ExecutionArgument) (known : Statistics)
    (rest : List ExecutionArgument) (state : σ) :
    ending ((checkRest tools program.compiled c.singlePath first known rest).run state) =
      ending (((rest.flatMap (executionSteps c)).foldlM (Step.perform tools program)
        (some (first, known))).run state) := by
  induction rest generalizing state with
  | nil => rfl
  | cons argument rest ih =>
      rw [List.flatMap_cons, List.foldlM_append, EStateM.run_bind, foldlM_executionSteps]
      simp only [checkRest, EStateM.run_bind, EStateM.run_adaptExcept]
      cases (execute tools program.compiled argument).run state with
      | error failure after => rfl
      | ok statistics after =>
          simp only [compareWith]
          split
          · rfl
          · exact (ending_bind_pure _ _ after).trans (ih after)

/-- A check of executions is their steps. -/
theorem ending_checkExecutions (first : ExecutionArgument) (rest : List ExecutionArgument)
    (state : σ) :
    ending ((checkExecutions tools program.compiled (first :: rest) c.singlePath).run state) =
      ending ((((first :: rest).flatMap (executionSteps c)).foldlM (Step.perform tools program)
        none).run state) := by
  rw [List.flatMap_cons, List.foldlM_append, EStateM.run_bind, foldlM_executionSteps]
  simp only [checkExecutions, EStateM.run_bind, EStateM.run_adaptExcept]
  cases (execute tools program.compiled first).run state with
  | error failure after => rfl
  | ok known after =>
      exact (ending_bind_pure _ _ after).trans (ending_checkRest tools program c first known rest after)

/-- A check of a configuration is its steps. -/
theorem ending_checkConfiguration (first : ExecutionArgument) (rest : List ExecutionArgument)
    (reference : Reference) (state : σ) :
    ending ((checkConfiguration tools program (first :: rest) c).run state) =
      ending (((configurationSteps program (first :: rest) c).foldlM (Step.perform tools program)
        reference).run state) := by
  rw [configurationSteps, List.foldlM_append]
  simp only [checkConfiguration, buildSteps, List.foldlM_cons, List.foldlM_nil, Step.perform,
    bind_assoc, pure_bind]
  refine ending_bind_congr _ (fun _ compiled => ?_) state
  refine ending_bind_congr _ (fun _ merged => ?_) compiled
  refine ending_bind_congr _ (fun _ built => ?_) merged
  exact ending_checkExecutions tools program c first rest built

/-- Steps of one configuration fail with its name. -/
theorem foldlM_attempt_eq (steps : List Step) (ofConfiguration : ∀ step ∈ steps, step.configuration = c)
    (reference : Reference) (state : σ) :
    (steps.foldlM (Step.attempt tools program) reference).run state =
      (EStateM.adaptExcept (MatrixFailure.mk c.text)
        (steps.foldlM (Step.perform tools program) reference)).run state := by
  induction steps generalizing reference state with
  | nil => rfl
  | cons step rest ih =>
      rw [List.forall_mem_cons] at ofConfiguration
      rw [List.foldlM_cons, List.foldlM_cons, EStateM.run_bind, EStateM.run_adaptExcept,
        EStateM.run_bind, Step.attempt, EStateM.run_adaptExcept, ofConfiguration.1]
      cases (step.perform tools program reference).run state with
      | error failure after => rfl
      | ok next after => exact (ih ofConfiguration.2 next after).trans (EStateM.run_adaptExcept _ _ _)

/-- The visits of a run are the steps of its schedule. -/
theorem ending_forM_visit (first : ExecutionArgument) (rest : List ExecutionArgument)
    (configurations : List Configuration) (reference : Reference) (progress : Progress σ) :
    ending (((schedule program (first :: rest) configurations).foldlM (Step.attempt tools program)
        reference).run progress.tools) =
      (ending ((configurations.forM (Progress.visit tools program (first :: rest))).run
        progress)).map id Progress.tools := by
  -- the reference is arbitrary: each configuration begins with a compile, which forgets it
  induction configurations generalizing reference progress with
  | nil => rfl
  | cons c others ih =>
      have steps := foldlM_attempt_eq tools program c (configurationSteps program (first :: rest) c)
        (fun _ member => configuration_of_mem member) reference progress.tools
      have check := ending_checkConfiguration tools program c first rest reference progress.tools
      rw [EStateM.run_adaptExcept] at steps
      rw [schedule, List.flatMap_cons, List.foldlM_append, EStateM.run_bind, steps]
      simp only [List.forM_eq_forM, List.forM_cons, EStateM.run_bind] at ih ⊢
      cases ran : (checkConfiguration tools program (first :: rest) c).run progress.tools with
      | ok outcome after =>
          rw [ran] at check
          obtain ⟨next, performed⟩ := ending_eq_ok_iff.mp check.symm
          rw [performed, run_visit_of_ok ran]
          exact ih next ⟨after, progress.started ++ [c], progress.summary.push (.of c outcome)⟩
      | error failure after =>
          rw [ran] at check
          rw [ending_eq_error_iff.mp check.symm, run_visit_of_error ran]
          rfl

/-- **A matrix run ends as the steps of its schedule do.** -/
theorem ending_checkMatrix (first : ExecutionArgument) (rest : List ExecutionArgument)
    (singlePathFlag : String) (base : List String) (matrix : FlagMatrix) (state : σ) :
    let run := checkMatrix tools program (first :: rest) singlePathFlag base matrix state
    ending (((schedule program (first :: rest) (matrix.configurations base singlePathFlag)).foldlM
        (Step.attempt tools program) none).run state) =
      (run.verdict.map fun _ => (), run.tools) := by
  intro run
  have visits := ending_forM_visit tools program first rest
    (matrix.configurations base singlePathFlag) none ⟨state, [], .start program.source (first :: rest)⟩
  rw [← FlagMatrix.walk_eq_forM] at visits
  rw [visits]
  simp only [run, checkMatrix]
  cases (matrix.walk base singlePathFlag (Progress.visit tools program (first :: rest))).run
    ⟨state, [], .start program.source (first :: rest)⟩ <;> rfl

end Schedule

/-! ### The calls of a run -/

/-- A recorded use of the tools adds its call to the list. -/
theorem run_use_recorded (tools : Toolchain σ) (program : Program) (step : Step) (state : σ)
    (calls : List Call) :
    (step.use tools.recorded program).run (state, calls) =
      withCalls ((step.use tools program).run state) (calls ++ [step.call program]) := by
  rw [Step.use, Toolchain.recorded_answer]
  exact run_noting _ _ state calls

theorem callsOfTurns_use (tools : Toolchain σ) (program : Program)
    (uses : List (Turn Step ToolError σ Answer)) :
    callsOfTurns (Step.use tools.recorded program) uses =
      uses.map fun use => use.item.call program := by
  have each : ∀ (step : Step) (state : σ),
      callsOf (step.use tools.recorded program) state = [step.call program] :=
    fun step state => callsOf_eq (run_use_recorded tools program step state)
  simp only [callsOfTurns, each]
  exact List.map_eq_flatMap.symm

/-- The calls of the uses are those of the steps. -/
theorem map_call_uses (tools : Toolchain σ) (program : Program) (steps : List Step) (state : σ) :
    (turns (Step.use tools program) steps state).map (fun use => use.item.call program) =
      steps.map (Step.call program) := by
  have items := congrArg (List.map (Step.call program))
    (map_item_turns (Step.use tools program) steps state)
  rw [List.map_map] at items
  exact items

/-- The steps of a list, with the calls that were made: all of them, or those up to the first one whose
answer is rejected. -/
theorem foldlM_attempt_recorded (tools : Toolchain σ) (program : Program) (steps : List Step)
    (state : σ) :
    let uses := turns (Step.use tools program) steps state
    let run := (steps.foldlM (Step.attempt tools.recorded program) none).run (state, [])
    (Accepted none (uses.map Turn.exchange) ∧
      ∃ last, run = .ok last (stateAfter state uses, steps.map (Step.call program))) ∨
    ∃ earlier use later failure, uses = earlier ++ use :: later ∧
      Accepted none (earlier.map Turn.exchange) ∧
      use.item.Rejects program (referenceOf none (earlier.map Turn.exchange)) use.result failure ∧
      run = .error ⟨use.item.configuration.text, failure⟩
        (use.after, (earlier ++ [use]).map fun use => use.item.call program) := by
  intro uses run
  have records : ∀ step : Step, Records (step.use tools program) (step.use tools.recorded program) :=
    fun step => records_of_adds _ (run_use_recorded tools program step)
  have exchanges : (turns (Step.use tools.recorded program) steps (state, [])).map Turn.exchange =
      uses.map Turn.exchange := results_recorded records steps state []
  rcases foldlM_attempt tools.recorded program steps none (state, []) with
    ⟨accepted, last, passed⟩ | ⟨before, logged, behind, failure, found, accepted, rejects, stopped⟩
  · refine Or.inl ⟨exchanges ▸ accepted, last, ?_⟩
    rw [← map_call_uses tools program steps state, ← callsOfTurns_use tools program uses]
    exact passed.trans (congrArg _ (stateAfter_recorded records steps state []))
  · -- the rejected use is the one at the same place without recording
    have place := turns_recorded records steps state [] before.length
    rw [found, List.getElem?_append_right (Nat.le_refl _), Nat.sub_self, List.getElem?_cons_zero]
      at place
    obtain ⟨use, atPlace, rfl⟩ := Option.map_eq_some_iff.mp place.symm
    have divided : uses = uses.take before.length ++ use :: uses.drop (before.length + 1) := by
      obtain ⟨bound, rfl⟩ := List.getElem?_eq_some_iff.mp atPlace
      rw [List.getElem_cons_drop, List.take_append_drop]
    have earlier : (uses.take before.length).map Turn.exchange = before.map Turn.exchange := by
      rw [List.map_take, ← exchanges, found, List.map_append, List.take_left' (List.length_map _)]
    refine Or.inr ⟨uses.take before.length, use, uses.drop (before.length + 1), failure, divided,
      earlier ▸ accepted, earlier ▸ rejects, ?_⟩
    have upTo : uses.take (before.length + 1) = uses.take before.length ++ [use] := by
      obtain ⟨bound, rfl⟩ := List.getElem?_eq_some_iff.mp atPlace
      exact List.take_succ_eq_append_getElem bound
    rw [← upTo, ← callsOfTurns_use tools program]
    exact stopped

/-- The steps of the schedule end as the run does, with the calls of the run. -/
theorem ending_checkMatrix_recorded (tools : Toolchain σ) (program : Program)
    (first : ExecutionArgument) (rest : List ExecutionArgument) (singlePathFlag : String)
    (base : List String) (matrix : FlagMatrix) (state : σ) :
    let run := checkMatrix tools program (first :: rest) singlePathFlag base matrix state
    let logged :=
      checkMatrix tools.recorded program (first :: rest) singlePathFlag base matrix (state, [])
    ending (((schedule program (first :: rest) (matrix.configurations base singlePathFlag)).foldlM
        (Step.attempt tools.recorded program) none).run (state, [])) =
      (run.verdict.map fun _ => (), (run.tools, logged.tools.2)) := by
  intro run logged
  have recorded : logged = _ := checkMatrix_recorded tools program (first :: rest) singlePathFlag base
    matrix state []
  have sameVerdict : logged.verdict = run.verdict := congrArg MatrixRun.verdict recorded
  have sameTools : logged.tools.1 = run.tools := congrArg (fun ended => ended.tools.1) recorded
  rw [ending_checkMatrix, ← sameVerdict, ← sameTools]

theorem map_call_schedule (program : Program) (arguments : List ExecutionArgument)
    (configurations : List Configuration) :
    (schedule program arguments configurations).map (Step.call program) =
      configurations.flatMap fun c =>
        [.compile program.source c.flags program.compiled,
          .merge program.startRoutine program.source program.compiled,
          .compile program.compiled c.flags program.compiled] ++
        arguments.flatMap fun argument =>
          [.link program.compiled argument.input (program.compiled ++ argument.input),
            .simulate (program.compiled ++ argument.input)] := by
  simp only [schedule, configurationSteps, List.map_flatMap, List.map_append]
  rfl

/-- **The calls of a matrix run follow its schedule**: to build the program under each configuration, and
then to link and execute it for each argument. A run that passes makes all of these calls, and no answer
is rejected. A run that fails makes them up to the first one whose answer is rejected, and that answer
gives its failure. -/
theorem checkMatrix_follows_schedule (tools : Toolchain σ) (program : Program)
    (first : ExecutionArgument) (rest : List ExecutionArgument) (singlePathFlag : String)
    (base : List String) (matrix : FlagMatrix) (state : σ) :
    let arguments := first :: rest
    let configurations := matrix.configurations base singlePathFlag
    let steps := schedule program arguments configurations
    let uses := turns (Step.use tools program) steps state
    let run := checkMatrix tools program arguments singlePathFlag base matrix state
    let calls :=
      (checkMatrix tools.recorded program arguments singlePathFlag base matrix (state, [])).tools.2
    steps.map (Step.call program) = (configurations.flatMap fun c =>
      [.compile program.source c.flags program.compiled,
        .merge program.startRoutine program.source program.compiled,
        .compile program.compiled c.flags program.compiled] ++
      arguments.flatMap fun argument =>
        [.link program.compiled argument.input (program.compiled ++ argument.input),
          .simulate (program.compiled ++ argument.input)]) ∧
    calls <+: steps.map (Step.call program) ∧
    (∀ summary, run.verdict = .ok summary →
      calls = steps.map (Step.call program) ∧
      calls.length = configurations.length * (3 + 2 * arguments.length) ∧
      Accepted none (uses.map Turn.exchange) ∧ run.tools = stateAfter state uses) ∧
    (∀ failure, run.verdict = .error failure → ∃ earlier use later,
      uses = earlier ++ use :: later ∧
      calls = earlier.map (fun earlier => earlier.item.call program) ++ [use.item.call program] ∧
      Accepted none (earlier.map Turn.exchange) ∧
      use.item.Rejects program (referenceOf none (earlier.map Turn.exchange)) use.result
        failure.failure ∧
      failure.configuration = use.item.configuration.text ∧ run.tools = use.after) := by
  intro arguments configurations steps uses run calls
  have ends := ending_checkMatrix_recorded tools program first rest singlePathFlag base matrix state
  refine ⟨map_call_schedule program arguments configurations, ?_⟩
  rcases foldlM_attempt_recorded tools program steps state with
    ⟨accepted, last, passed⟩ | ⟨earlier, use, later, cause, found, accepted, rejects, stopped⟩
  · rw [passed] at ends
    obtain ⟨verdict, isTools, isCalls⟩ : .ok () = run.verdict.map (fun _ => ()) ∧
        stateAfter state uses = run.tools ∧ steps.map (Step.call program) = calls := by
      simpa only [ending, Prod.mk.injEq] using ends
    refine ⟨isCalls ▸ List.prefix_refl _, fun summary _ => ⟨isCalls.symm, ?_, accepted, isTools.symm⟩,
      fun failure failed => ?_⟩
    · rw [← isCalls, List.length_map]
      exact length_schedule program arguments configurations
    · rw [failed] at verdict
      cases verdict
  · rw [stopped] at ends
    obtain ⟨verdict, isTools, isCalls⟩ :
        .error ⟨use.item.configuration.text, cause⟩ = run.verdict.map (fun _ => ()) ∧
        use.after = run.tools ∧
        (earlier ++ [use]).map (fun use => use.item.call program) = calls := by
      simpa only [ending, Prod.mk.injEq] using ends
    refine ⟨?_, fun summary passed => ?_, fun failure failed => ?_⟩
    · refine ⟨later.map fun use => use.item.call program, ?_⟩
      rw [← isCalls, ← List.map_append, List.append_assoc, List.singleton_append, ← found,
        map_call_uses]
    · rw [passed] at verdict
      cases verdict
    · rw [failed] at verdict
      cases verdict
      refine ⟨earlier, use, later, found, ?_, accepted, rejects, rfl, isTools.symm⟩
      rw [← isCalls, List.map_append]
      rfl

end SinglePath
