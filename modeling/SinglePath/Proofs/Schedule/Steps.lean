/-
**The steps of a matrix run.**

A matrix run has one order in which it calls the tools, and it goes on as long as it accepts the
answers:

* `Step`, `schedule` — the calls in that order, each with what it is for;
* `Step.Accepts`, `Step.Rejects` — the answers that a run goes on with, and those that end it, and how;
* `Step.attempt_cases` — one step: its answer is accepted, or it is rejected and gives the failure;
* `foldlM_attempt` — the steps of a list are taken up to the first one whose answer is rejected.
-/

import SinglePath.Check.Matrix
import SinglePath.Proofs.Executions

namespace SinglePath

variable {σ : Type}

/-! ### Calls and their answers -/

/-- What a tool that could be started answers. -/
inductive Answer where
  /-- How a compiler, merger or linker ended. -/
  | ended (run : ToolRun)
  /-- How the simulated program ended. -/
  | simulated (run : SimulatorRun)
  deriving DecidableEq, Repr

namespace Toolchain

/-- The answer to a call. -/
def answer (tools : Toolchain σ) : Call → EStateM ToolError σ Answer
  | .compile input flags output => Answer.ended <$> tools.compile input flags output
  | .merge startRoutine source output => Answer.ended <$> tools.merge startRoutine source output
  | .link object input output => Answer.ended <$> tools.link object input output
  | .simulate executable => Answer.simulated <$> tools.simulate executable

theorem map_noting {α β : Type} (f : α → β) (call : Call) (answer : EStateM ToolError σ α) :
    f <$> noting call answer = noting call (f <$> answer) := by
  funext ⟨state, calls⟩
  simp only [Functor.map, EStateM.map, noting, EStateM.run]
  cases answer state <;> rfl

/-- A recorded toolchain gives the same answer, and notes the call. -/
theorem recorded_answer (tools : Toolchain σ) (call : Call) :
    tools.recorded.answer call = noting call (tools.answer call) := by
  cases call <;> exact map_noting _ _ _

end Toolchain

/-! ### The steps of a run -/

/-- A call of a matrix run, with what it is for. -/
inductive Step where
  /-- Compiles a file under a configuration. -/
  | compile (c : Configuration) (input : String)
  /-- Merges the source with the start routine. -/
  | merge (c : Configuration)
  /-- Links the program for an argument. -/
  | link (c : Configuration) (argument : ExecutionArgument)
  /-- Executes the program for an argument. -/
  | simulate (c : Configuration) (argument : ExecutionArgument)
  deriving DecidableEq, Repr

namespace Step

/-- The configuration that a step belongs to. -/
def configuration : Step → Configuration
  | compile c _ | merge c | link c _ | simulate c _ => c

/-- The call of a step. -/
def call (program : Program) : Step → Call
  | compile c input => .compile input c.flags program.compiled
  | merge _ => .merge program.startRoutine program.source program.compiled
  | link _ argument =>
    .link program.compiled argument.input (executablePath program.compiled argument.input)
  | simulate _ argument => .simulate (executablePath program.compiled argument.input)

end Step

/-- The steps that build the program. -/
def buildSteps (program : Program) (c : Configuration) : List Step :=
  [.compile c program.source, .merge c, .compile c program.compiled]

/-- The steps of one execution. -/
def executionSteps (c : Configuration) (argument : ExecutionArgument) : List Step :=
  [.link c argument, .simulate c argument]

/-- The steps of one configuration. -/
def configurationSteps (program : Program) (arguments : List ExecutionArgument)
    (c : Configuration) : List Step :=
  buildSteps program c ++ arguments.flatMap (executionSteps c)

/-- The steps of a whole run, configuration by configuration. -/
def schedule (program : Program) (arguments : List ExecutionArgument)
    (configurations : List Configuration) : List Step :=
  configurations.flatMap (configurationSteps program arguments)

theorem length_flatMap_of_length {α β : Type} {f : α → List β} {size : Nat}
    (each : ∀ x, (f x).length = size) (xs : List α) : (xs.flatMap f).length = xs.length * size := by
  simp only [List.length_flatMap, each]
  rw [List.map_const', List.sum_replicate_nat]

/-- In a list of blocks of one size, a position is that of a block and a position in the block. -/
theorem getElem?_flatMap_of_length {α β : Type} {f : α → List β} {size : Nat}
    (each : ∀ x, (f x).length = size) (xs : List α) (block : Nat) {place : Nat}
    (inside : place < size) :
    (xs.flatMap f)[block * size + place]? = xs[block]?.bind fun x => (f x)[place]? := by
  induction xs generalizing block with
  | nil => rfl
  | cons x xs ih =>
      rw [List.flatMap_cons]
      cases block with
      | zero =>
          rw [Nat.zero_mul, Nat.zero_add, List.getElem?_append_left (by rw [each]; exact inside)]
          rfl
      | succ block =>
          have beyond : (block + 1) * size + place = (f x).length + (block * size + place) := by
            rw [each, Nat.add_mul]
            omega
          rw [beyond, List.getElem?_append_right (Nat.le_add_right ..), Nat.add_sub_cancel_left, ih]
          rfl

theorem length_configurationSteps (program : Program) (arguments : List ExecutionArgument)
    (c : Configuration) :
    (configurationSteps program arguments c).length = 3 + 2 * arguments.length := by
  have each : ∀ argument, (executionSteps c argument).length = 2 := fun _ => rfl
  have executions := length_flatMap_of_length each arguments
  rw [configurationSteps, List.length_append, executions, Nat.mul_comm]
  rfl

theorem length_schedule (program : Program) (arguments : List ExecutionArgument)
    (configurations : List Configuration) :
    (schedule program arguments configurations).length =
      configurations.length * (3 + 2 * arguments.length) :=
  length_flatMap_of_length (length_configurationSteps program arguments) configurations

theorem configuration_of_mem {program : Program} {arguments : List ExecutionArgument}
    {c : Configuration} {step : Step} (member : step ∈ configurationSteps program arguments c) :
    step.configuration = c := by
  rcases List.mem_append.mp member with build | execution
  · simp only [buildSteps, List.mem_cons, List.not_mem_nil, or_false] at build
    rcases build with rfl | rfl | rfl <;> rfl
  · obtain ⟨argument, -, member⟩ := List.mem_flatMap.mp execution
    simp only [executionSteps, List.mem_cons, List.not_mem_nil, or_false] at member
    rcases member with rfl | rfl <;> rfl

/-! ### Which answers are accepted -/

/-- An execution that later ones are compared with, if there is one yet. -/
abbrev Reference : Type := Option (ExecutionArgument × Statistics)

namespace Step

/-- The execution that the steps after this one are compared with: the first one since the program was
last built. -/
def referenceAfter (reference : Reference) : Step → Except ToolError Answer → Reference
  | compile _ _, _ | merge _, _ => none
  | simulate _ argument, .ok (.simulated run) =>
    reference <|> (Statistics.ofReport run.stderr).toOption.map (argument, ·)
  | _, _ => reference

/-- An answer with which a run goes on: the tool reports success, or the program ended with the
expected exit code and a report that can be read and, in single-path code, has the text of the
execution compared with. -/
inductive Accepts (reference : Reference) : Step → Except ToolError Answer → Prop where
  | compiled {c : Configuration} {input : String} {run : ToolRun} (success : run.success = true) :
      Accepts reference (.compile c input) (.ok (.ended run))
  | merged {c : Configuration} {run : ToolRun} (success : run.success = true) :
      Accepts reference (.merge c) (.ok (.ended run))
  | linked {c : Configuration} {argument : ExecutionArgument} {run : ToolRun}
      (success : run.success = true) : Accepts reference (.link c argument) (.ok (.ended run))
  | executed {c : Configuration} {argument : ExecutionArgument} {run : SimulatorRun}
      {statistics : Statistics} (expected : run.exitCode = some argument.expected)
      (read : Statistics.ofReport run.stderr = .ok statistics)
      (alike : c.singlePath = true → ∀ first known, reference = some (first, known) →
        statistics.text = known.text) :
      Accepts reference (.simulate c argument) (.ok (.simulated run))

/-- An answer that ends a run, and with which failure. -/
inductive Rejects (program : Program) (reference : Reference) :
    Step → Except ToolError Answer → TestFailure → Prop where
  | noCompiler {c : Configuration} {input : String} {error : ToolError} :
      Rejects program reference (.compile c input) (.error error) (.tool error)
  | noMerger {c : Configuration} {error : ToolError} :
      Rejects program reference (.merge c) (.error error) (.tool error)
  | noLinker {c : Configuration} {argument : ExecutionArgument} {error : ToolError} :
      Rejects program reference (.link c argument) (.error error) (.execution (.tool error))
  | noSimulator {c : Configuration} {argument : ExecutionArgument} {error : ToolError} :
      Rejects program reference (.simulate c argument) (.error error) (.execution (.tool error))
  | notCompiled {c : Configuration} {input : String} {run : ToolRun}
      (failed : run.success = false) :
      Rejects program reference (.compile c input) (.ok (.ended run))
        (.notCompiled program.source run.stderr)
  | notMerged {c : Configuration} {run : ToolRun} (failed : run.success = false) :
      Rejects program reference (.merge c) (.ok (.ended run))
        (.notMerged program.source program.startRoutine run.stderr)
  | notLinked {c : Configuration} {argument : ExecutionArgument} {run : ToolRun}
      (failed : run.success = false) :
      Rejects program reference (.link c argument) (.ok (.ended run))
        (.execution (.notLinked program.compiled argument.input run.stderr))
  | wrongResult {c : Configuration} {argument : ExecutionArgument} {run : SimulatorRun}
      (other : run.exitCode ≠ some argument.expected) :
      Rejects program reference (.simulate c argument) (.ok (.simulated run))
        (.execution (.wrongResult program.compiled argument.input argument.expected run))
  | noStatistics {c : Configuration} {argument : ExecutionArgument} {run : SimulatorRun}
      {cause : ReportError} (expected : run.exitCode = some argument.expected)
      (unread : Statistics.ofReport run.stderr = .error cause) :
      Rejects program reference (.simulate c argument) (.ok (.simulated run))
        (.execution (.noStatistics program.compiled argument.input run.stderr cause))
  | diverged {c : Configuration} {argument first : ExecutionArgument} {run : SimulatorRun}
      {statistics known : Statistics} (expected : run.exitCode = some argument.expected)
      (read : Statistics.ofReport run.stderr = .ok statistics) (compared : c.singlePath = true)
      (reference_eq : reference = some (first, known)) (differs : statistics.text ≠ known.text) :
      Rejects program reference (.simulate c argument) (.ok (.simulated run))
        (.divergence (.between program.compiled first argument known statistics))

end Step

/-- A step with the answer to its call. -/
abbrev Exchange : Type := Step × Except ToolError Answer

/-- Every answer is accepted. -/
def Accepted : Reference → List Exchange → Prop
  | _, [] => True
  | reference, (step, answer) :: rest =>
    step.Accepts reference answer ∧ Accepted (step.referenceAfter reference answer) rest

/-- The execution that the steps after some exchanges are compared with. -/
def referenceOf (reference : Reference) (exchanges : List Exchange) : Reference :=
  exchanges.foldl (fun known exchange => exchange.1.referenceAfter known exchange.2) reference

/-! ### Taking the steps -/

/-- Compares an execution with the reference, or makes it the reference. -/
def compareWith (program : Program) (c : Configuration) (argument : ExecutionArgument)
    (reference : Reference) (statistics : Statistics) : EStateM TestFailure σ Reference :=
  match reference with
  | none => return some (argument, statistics)
  | some (first, known) =>
    if c.singlePath && !statistics.agrees known then
      throw (.divergence (.between program.compiled first argument known statistics))
    else return some (first, known)

namespace Step

/-- Takes one step, and gives the execution that later ones are compared with. -/
def perform (tools : Toolchain σ) (program : Program) (reference : Reference) :
    Step → EStateM TestFailure σ Reference
  | compile c input => do
    require (tools.compile input c.flags program.compiled) .tool (.notCompiled program.source)
    return none
  | merge _ => do
    require (tools.merge program.startRoutine program.source program.compiled) .tool
      (.notMerged program.source program.startRoutine)
    return none
  | link _ argument => do
    require (tools.link program.compiled argument.input
        (executablePath program.compiled argument.input)) (.execution ∘ .tool)
      (.execution ∘ .notLinked program.compiled argument.input)
    return reference
  | simulate c argument => do
    let run ← EStateM.adaptExcept (.execution ∘ .tool)
      (tools.simulate (executablePath program.compiled argument.input))
    match run.statistics program.compiled argument with
    | .ok statistics => compareWith program c argument reference statistics
    | .error failure => throw (.execution failure)

/-- The use of the tools that a step makes. -/
def use (tools : Toolchain σ) (program : Program) (step : Step) : EStateM ToolError σ Answer :=
  tools.answer (step.call program)

end Step

theorem run_map {α β ε : Type} (wrap : α → β) (action : EStateM ε σ α) (state : σ) :
    (wrap <$> action).run state =
      match action.run state with
      | .ok value after => .ok (wrap value) after
      | .error failure after => .error failure after := by
  simp only [EStateM.run, Functor.map, EStateM.map]
  cases action state <;> rfl

theorem Step.run_use_of_ok {tools : Toolchain σ} {program : Program} {step : Step} {α : Type}
    {wrap : α → Answer} {tool : EStateM ToolError σ α} {state after : σ} {run : α}
    (asks : step.use tools program = wrap <$> tool) (ran : tool.run state = .ok run after) :
    (step.use tools program).run state = .ok (wrap run) after := by
  rw [asks, run_map, ran]

theorem Step.run_use_of_error {tools : Toolchain σ} {program : Program} {step : Step} {α : Type}
    {wrap : α → Answer} {tool : EStateM ToolError σ α} {state after : σ} {error : ToolError}
    (asks : step.use tools program = wrap <$> tool) (ran : tool.run state = .error error after) :
    (step.use tools program).run state = .error error after := by
  rw [asks, run_map, ran]

/-- A step whose tool must report success: the tool cannot be started, or does not report it, or
does. -/
theorem Step.perform_cases_of_require {tools : Toolchain σ} {program : Program}
    {reference next : Reference} (step : Step) {tool : EStateM ToolError σ ToolRun}
    {missing : ToolError → TestFailure} {failed : String → TestFailure}
    (asks : step.use tools program = Answer.ended <$> tool)
    (requires : step.perform tools program reference = do
      require tool missing failed
      return next)
    (goesOn : ∀ answer, step.referenceAfter reference answer = next)
    (unstarted : ∀ error, step.Rejects program reference (.error error) (missing error))
    (unsuccessful : ∀ run : ToolRun, run.success = false →
      step.Rejects program reference (.ok (.ended run)) (failed run.stderr))
    (successful : ∀ run : ToolRun, run.success = true →
      step.Accepts reference (.ok (.ended run))) (state : σ) :
    let use := Turn.take (Step.use tools program) step state
    step.Accepts reference use.result ∧
        (step.perform tools program reference).run state =
          .ok (step.referenceAfter reference use.result) use.after ∨
      ∃ failure, step.Rejects program reference use.result failure ∧
        (step.perform tools program reference).run state = .error failure use.after := by
  rw [requires, EStateM.run_bind, run_require]
  cases ran : tool.run state with
  | error error after =>
      rw [Turn.take_of_error (Step.run_use_of_error asks ran)]
      exact Or.inr ⟨_, unstarted error, rfl⟩
  | ok run after =>
      rw [Turn.take_of_ok (Step.run_use_of_ok asks ran)]
      cases success : run.success with
      | false => exact Or.inr ⟨_, unsuccessful run success, by simp [success]⟩
      | true => exact Or.inl ⟨successful run success, by simp [success, goesOn]⟩

/-- An execution with statistics is accepted, or it differs from the reference. -/
theorem compareWith_cases {program : Program} {c : Configuration} {argument : ExecutionArgument}
    {reference : Reference} {run : SimulatorRun} {statistics : Statistics}
    (expected : run.exitCode = some argument.expected)
    (read : Statistics.ofReport run.stderr = .ok statistics) (state : σ) :
    let answer := .ok (.simulated run)
    (Step.simulate c argument).Accepts reference answer ∧
        (compareWith program c argument reference statistics).run state =
          .ok ((Step.simulate c argument).referenceAfter reference answer) state ∨
      ∃ failure, (Step.simulate c argument).Rejects program reference answer failure ∧
        (compareWith program c argument reference statistics).run state = .error failure state := by
  intro answer
  rcases reference with _ | ⟨first, known⟩
  · have first : (Step.simulate c argument).Accepts none answer :=
      .executed expected read fun _ _ _ known => nomatch known
    refine Or.inl ⟨first, ?_⟩
    simp only [answer, Step.referenceAfter, read]
    rfl
  -- code that is not single-path goes on whatever the texts are
  by_cases alike : c.singlePath = true → statistics.text = known.text
  · refine Or.inl ⟨.executed expected read fun compared _ _ same => ?_, ?_⟩
    · cases same
      exact alike compared
    · have goesOn : (c.singlePath && !statistics.agrees known) = false := by
        cases compared : c.singlePath with
        | false => rfl
        | true => simpa using (agrees_iff _ _).mpr (alike compared)
      simp only [compareWith, goesOn, Bool.false_eq_true, if_false]
      rfl
  · obtain ⟨compared, differs⟩ := Classical.not_imp.mp alike
    refine Or.inr ⟨_, .diverged expected read compared rfl differs, ?_⟩
    have ends : (c.singlePath && !statistics.agrees known) = true := by
      rw [compared, Bool.true_and, Bool.not_eq_true', Bool.eq_false_iff]
      exact fun agree => differs ((agrees_iff _ _).mp agree)
    simp only [compareWith, ends, if_true]
    rfl

/-- **One step**: its answer is accepted and the run goes on, or it is rejected and ends the run. -/
theorem Step.perform_cases (tools : Toolchain σ) (program : Program) (reference : Reference)
    (step : Step) (state : σ) :
    let use := Turn.take (Step.use tools program) step state
    step.Accepts reference use.result ∧
        (step.perform tools program reference).run state =
          .ok (step.referenceAfter reference use.result) use.after ∨
      ∃ failure, step.Rejects program reference use.result failure ∧
        (step.perform tools program reference).run state = .error failure use.after := by
  intro use
  cases step with
  | compile c input =>
      exact perform_cases_of_require (.compile c input) rfl rfl (fun _ => rfl) (fun _ => .noCompiler)
        (fun _ failed => .notCompiled failed) (fun _ success => .compiled success) state
  | merge c =>
      exact perform_cases_of_require (.merge c) rfl rfl (fun _ => rfl) (fun _ => .noMerger)
        (fun _ failed => .notMerged failed) (fun _ success => .merged success) state
  | link c argument =>
      exact perform_cases_of_require (.link c argument) rfl rfl (fun _ => rfl) (fun _ => .noLinker)
        (fun _ failed => .notLinked failed) (fun _ success => .linked success) state
  | simulate c argument =>
      cases ran : (tools.simulate (executablePath program.compiled argument.input)).run state with
      | error error after =>
          have used : use = _ := Turn.take_of_error (run_use_of_error rfl ran)
          rw [used, perform, EStateM.run_bind, EStateM.run_adaptExcept, ran]
          exact Or.inr ⟨_, .noSimulator, rfl⟩
      | ok run after =>
          have used : use = _ := Turn.take_of_ok (run_use_of_ok rfl ran)
          rw [used, perform, EStateM.run_bind, EStateM.run_adaptExcept, ran]
          dsimp only
          rcases statistics_cases run program.compiled argument with
            ⟨other, gave⟩ | ⟨cause, expected, unread, gave⟩ | ⟨statistics, expected, read, gave⟩
          all_goals rw [gave]
          · exact Or.inr ⟨_, .wrongResult other, rfl⟩
          · exact Or.inr ⟨_, .noStatistics expected unread, rfl⟩
          · exact compareWith_cases expected read after

/-- Takes one step of a matrix run; a failure names the configuration. -/
def Step.attempt (tools : Toolchain σ) (program : Program) (reference : Reference) (step : Step) :
    EStateM MatrixFailure σ Reference :=
  EStateM.adaptExcept (MatrixFailure.mk step.configuration.text)
    (step.perform tools program reference)

/-- The exchange of a use of the tools. -/
def Turn.exchange (use : Turn Step ToolError σ Answer) : Exchange :=
  (use.item, use.result)

/-- **One step of a run**: its answer is accepted and the run goes on, or it is rejected and ends the
run. -/
theorem Step.attempt_cases (tools : Toolchain σ) (program : Program) (reference : Reference)
    (step : Step) (state : σ) :
    let use := Turn.take (Step.use tools program) step state
    step.Accepts reference use.result ∧
        (step.attempt tools program reference).run state =
          .ok (step.referenceAfter reference use.result) use.after ∨
      ∃ failure, step.Rejects program reference use.result failure ∧
        (step.attempt tools program reference).run state =
          .error ⟨step.configuration.text, failure⟩ use.after := by
  rw [attempt, EStateM.run_adaptExcept]
  rcases step.perform_cases tools program reference state with
    ⟨accepts, ran⟩ | ⟨failure, rejects, ran⟩
  · rw [ran]
    exact Or.inl ⟨accepts, rfl⟩
  · rw [ran]
    exact Or.inr ⟨failure, rejects, rfl⟩

/-- **The steps of a list** are taken up to the first one whose answer is rejected. -/
theorem foldlM_attempt (tools : Toolchain σ) (program : Program) (steps : List Step)
    (reference : Reference) (state : σ) :
    let uses := turns (Step.use tools program) steps state
    let run := (steps.foldlM (Step.attempt tools program) reference).run state
    (Accepted reference (uses.map Turn.exchange) ∧ ∃ last, run = .ok last (stateAfter state uses)) ∨
      ∃ earlier use later failure, uses = earlier ++ use :: later ∧
        Accepted reference (earlier.map Turn.exchange) ∧
        use.item.Rejects program (referenceOf reference (earlier.map Turn.exchange)) use.result
          failure ∧
        run = .error ⟨use.item.configuration.text, failure⟩ use.after := by
  induction steps generalizing reference state with
  | nil => exact Or.inl ⟨trivial, reference, rfl⟩
  | cons step rest ih =>
      let use := Turn.take (Step.use tools program) step state
      have isStep : use.item = step := Turn.take_item ..
      have exchanged : use.exchange = (step, use.result) := by rw [Turn.exchange, isStep]
      have taken : turns (Step.use tools program) (step :: rest) state =
          use :: turns (Step.use tools program) rest use.after := rfl
      rw [List.foldlM_cons, EStateM.run_bind, taken]
      rcases step.attempt_cases tools program reference state with
        ⟨accepts, ran⟩ | ⟨failure, rejects, ran⟩
      · -- the rest of the steps is compared with what this one left
        rw [ran]
        rcases ih (step.referenceAfter reference use.result) use.after with
          ⟨accepted, last, passed⟩ | ⟨earlier, other, later, failure, found, accepted, rejects, stopped⟩
        · refine Or.inl ⟨?_, last, ?_⟩
          · rw [List.map_cons, exchanged]
            exact ⟨accepts, accepted⟩
          · rw [stateAfter_cons]
            exact passed
        · refine Or.inr ⟨use :: earlier, other, later, failure, ?_, ?_, ?_, stopped⟩
          · rw [found, List.cons_append]
          · rw [List.map_cons, exchanged]
            exact ⟨accepts, accepted⟩
          · rw [List.map_cons, exchanged]
            exact rejects
      · rw [ran]
        refine Or.inr ⟨[], use, _, failure, rfl, trivial, ?_, ?_⟩
        · rw [isStep]
          exact rejects
        · rw [isStep]

end SinglePath
