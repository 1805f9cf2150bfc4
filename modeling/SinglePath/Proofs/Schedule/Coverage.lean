/-
**A run that passes has checked something.**

An empty group, an empty list of arguments or a comparison left out would each give a report without
failures. With settings and arguments that are accepted none of this happens:

* `getElem?_schedule`, `getElem?_simulate` — where a call stands in the schedule of a run;
* `before_eq_after` — the state in which the call at a place is answered;
* `checkMatrix_accepted` — the calls of a run that passes are those of its schedule, and every answer to
  them is accepted;
* `checkMatrix_not_vacuous` — a run that passes has executed the program under every configuration and for
  every argument, with the exit code and a report that were demanded, and has compared the executions of
  single-path code.
-/

import SinglePath.Proofs.Flags.Traversal
import SinglePath.Proofs.Inputs
import SinglePath.Proofs.Order.HistoryFree
import SinglePath.Proofs.Schedule.MatrixCalls

namespace SinglePath

variable {σ : Type}

/-! ### Places in the schedule -/

section Places

variable {program : Program} {arguments : List ExecutionArgument} {configurations : List Configuration}
  {c : Configuration}

theorem getElem?_schedule {i place : Nat} (atI : configurations[i]? = some c)
    (inside : place < 3 + 2 * arguments.length) :
    (schedule program arguments configurations)[i * (3 + 2 * arguments.length) + place]? =
      (configurationSteps program arguments c)[place]? := by
  rw [schedule, getElem?_flatMap_of_length (length_configurationSteps program arguments) _ _ inside, atI]
  rfl

/-- Four calls come before the first simulation of a configuration, and two belong to each argument. -/
theorem getElem?_simulate {j : Nat} {argument : ExecutionArgument} (atJ : arguments[j]? = some argument) :
    (configurationSteps program arguments c)[4 + 2 * j]? = some (.simulate c argument) := by
  have each : ∀ argument, (executionSteps c argument).length = 2 := fun _ => rfl
  have place : 4 + 2 * j - (buildSteps program c).length = j * 2 + 1 := by
    show 4 + 2 * j - 3 = j * 2 + 1
    omega
  have behind : (buildSteps program c).length ≤ 4 + 2 * j := by
    show 3 ≤ 4 + 2 * j
    omega
  rw [configurationSteps, List.getElem?_append_right behind, place,
    getElem?_flatMap_of_length each _ _ (by decide), atJ]
  rfl

end Places

/-! ### The answers of a run that passes -/

/-- An answer among accepted ones is accepted. -/
theorem Accepted.accepts {reference : Reference} {exchanges : List Exchange}
    (accepted : Accepted reference exchanges) {step : Step} {answer : Except ToolError Answer}
    (member : (step, answer) ∈ exchanges) : ∃ known, step.Accepts known answer := by
  induction exchanges generalizing reference with
  | nil => cases member
  | cons exchange rest ih =>
      obtain ⟨first, later⟩ := accepted
      rcases List.mem_cons.mp member with rfl | member
      · exact ⟨reference, first⟩
      · exact ih later member

/-- **The state in which a call is answered** is the one that the calls before it leave. -/
theorem before_eq_after {tools : Toolchain σ} {program : Program} {steps : List Step} {state : σ}
    {k : Nat} {use : Turn Step ToolError σ Answer}
    (found : (turns (Step.use tools program) steps state)[k]? = some use) :
    use.before = tools.after state ((steps.map (Step.call program)).take k) := by
  induction steps generalizing state k with
  | nil => simp [turns] at found
  | cons step rest ih =>
      rw [turns] at found
      cases k with
      | zero =>
          cases found
          rw [Turn.take_before]
          rfl
      | succ k =>
          have sameState : (Turn.take (Step.use tools program) step state).after =
              (Turn.take tools.answer (step.call program) state).after := by
            cases ran : (tools.answer (step.call program)).run state with
            | ok answer after =>
                have used : (step.use tools program).run state = .ok answer after := ran
                rw [Turn.take_of_ok ran, Turn.take_of_ok used]
            | error failure after =>
                have used : (step.use tools program).run state = .error failure after := ran
                rw [Turn.take_of_error ran, Turn.take_of_error used]
          rw [ih found, sameState]
          rfl

/-- The simulator's answer to a step of a run. -/
theorem run_simulate_of_use {tools : Toolchain σ} {program : Program} {steps : List Step} {state : σ}
    {k : Nat} {use : Turn Step ToolError σ Answer} {c : Configuration} {argument : ExecutionArgument}
    {run : SimulatorRun} (found : (turns (Step.use tools program) steps state)[k]? = some use)
    (isSimulation : use.item = .simulate c argument) (gave : use.result = .ok (.simulated run)) :
    (tools.simulate (executablePath program.compiled argument.input)).run
        (tools.after state ((steps.map (Step.call program)).take k)) = .ok run use.after := by
  rw [← before_eq_after found]
  have taken := eq_take_of_mem_turns (List.mem_of_getElem? found)
  have ran := Turn.run_of_take_ok ((congrArg Turn.result taken).symm.trans gave)
  rw [← taken, isSimulation] at ran
  have asks : (Step.simulate c argument).use tools program =
    Answer.simulated <$> tools.simulate (executablePath program.compiled argument.input) := rfl
  rw [asks, run_map] at ran
  split at ran
  · rename_i answered
    cases ran
    exact answered
  · cases ran

/-- **The calls of a run that passes** are those of its schedule, and no answer to them is rejected. -/
theorem checkMatrix_accepted {tools : Toolchain σ} {program : Program}
    {arguments : List ExecutionArgument} (nonempty : arguments ≠ []) {singlePathFlag : String}
    {base : List String} {matrix : FlagMatrix} {state : σ} {summary : Summary}
    (passed : (checkMatrix tools program arguments singlePathFlag base matrix state).verdict =
      .ok summary) :
    let steps := schedule program arguments (matrix.configurations base singlePathFlag)
    (checkMatrix tools.recorded program arguments singlePathFlag base matrix (state, [])).tools.2 =
        steps.map (Step.call program) ∧
      Accepted none ((turns (Step.use tools program) steps state).map Turn.exchange) := by
  intro steps
  obtain ⟨first, rest, rfl⟩ := List.exists_cons_of_ne_nil nonempty
  have ends := ending_checkMatrix_recorded tools program first rest singlePathFlag base matrix state
  simp only [passed] at ends
  rcases foldlM_attempt_recorded tools program steps state with
    ⟨accepted, last, ran⟩ | ⟨_, _, _, _, _, _, _, ran⟩
  · rw [ran] at ends
    simp only [ending, Prod.mk.injEq] at ends
    exact ⟨ends.2.2.symm, accepted⟩
  · rw [ran] at ends
    simp only [ending, Prod.mk.injEq] at ends
    cases ends.1

/-- An execution of a run whose answers are accepted: it was demanded at its place in the schedule, and it
ended with the expected exit code and a report. -/
theorem exists_simulation {tools : Toolchain σ} {program : Program}
    {arguments : List ExecutionArgument} {configurations : List Configuration} {state : σ}
    (accepted : Accepted none ((turns (Step.use tools program)
      (schedule program arguments configurations) state).map Turn.exchange))
    {i j : Nat} {c : Configuration} {argument : ExecutionArgument}
    (atI : configurations[i]? = some c) (atJ : arguments[j]? = some argument) :
    let calls := (schedule program arguments configurations).map (Step.call program)
    let place := i * (3 + 2 * arguments.length) + (4 + 2 * j)
    calls[place]? = some (.simulate (program.compiled ++ argument.input)) ∧
    ∃ run after statistics,
      (tools.simulate (program.compiled ++ argument.input)).run (tools.after state (calls.take place)) =
        .ok run after ∧
      run.exitCode = some argument.expected ∧ Statistics.ofReport run.stderr = .ok statistics := by
  intro calls place
  have inside : j < arguments.length := (List.getElem?_eq_some_iff.mp atJ).1
  have atPlace : (schedule program arguments configurations)[place]? = some (.simulate c argument) :=
    (getElem?_schedule atI (by omega)).trans (getElem?_simulate atJ)
  obtain ⟨use, found, isSimulation⟩ :=
    exists_turn_of_getElem? (Step.use tools program) state atPlace
  have exchanged : (Step.simulate c argument, use.result) ∈ (turns (Step.use tools program)
      (schedule program arguments configurations) state).map Turn.exchange :=
    List.mem_map.mpr ⟨use, List.mem_of_getElem? found, by rw [Turn.exchange, isSimulation]⟩
  obtain ⟨known, accepts⟩ := accepted.accepts exchanged
  generalize gave : use.result = answer at accepts
  cases accepts with
  | @executed _ _ run statistics expected read alike =>
      refine ⟨?_, run, use.after, statistics, run_simulate_of_use found isSimulation gave, expected, read⟩
      rw [List.getElem?_map, atPlace]
      rfl

/-! ### The report of a run that passes -/

/-- A configuration that passes was executed for every argument, and single-path code was compared. -/
theorem outcome_of_checkConfiguration {tools : Toolchain σ} {program : Program}
    {arguments : List ExecutionArgument} {c : Configuration} {state after : σ} {outcome : Outcome}
    (passed : (checkConfiguration tools program arguments c).run state = .ok outcome after) :
    outcome.executions = arguments.length ∧
      outcome.compared = if c.singlePath then arguments.length - 1 else 0 := by
  rw [checkConfiguration_eq_build, EStateM.run_bind] at passed
  cases built : (build tools program c).run state with
  | error failure stopped =>
      rw [built] at passed
      cases passed
  | ok _ compiled =>
      rw [built] at passed
      cases arguments with
      | nil => cases passed
      | cons first rest =>
          obtain ⟨reference, -, found⟩ :=
            checkExecutions_of_none_rejected (checkExecutions_ok_iff.mp ⟨outcome, after, passed⟩)
          cases passed.symm.trans found
          exact ⟨rfl, rfl⟩

/-- What a run that passes reports about a configuration. -/
theorem exists_outcome_of_summary {tools : Toolchain σ} {program : Program}
    {arguments : List ExecutionArgument} {singlePathFlag : String} {base : List String}
    {matrix : FlagMatrix} {state : σ} {summary : Summary}
    (passed : (checkMatrix tools program arguments singlePathFlag base matrix state).verdict =
      .ok summary) :
    summary.configurations.length = matrix.size ∧
    ∀ (i : Nat) report, summary.configurations[i]? = some report → ∃ c outcome,
      (matrix.configurations base singlePathFlag)[i]? = some c ∧ report = .of c outcome ∧
      outcome.executions = arguments.length ∧
      outcome.compared = if c.singlePath then arguments.length - 1 else 0 := by
  have pass := checkMatrix_ok_iff.mp ⟨summary, passed⟩
  rw [checkMatrix_passed pass] at passed
  cases passed
  have length := length_summaries pass
  rw [length_turns, FlagMatrix.length_configurations] at length
  refine ⟨length, fun i report found => ?_⟩
  have inside := (List.getElem?_eq_some_iff.mp found).1
  obtain ⟨check, atI⟩ : ∃ check, (turns (checkConfiguration tools program arguments)
      (matrix.configurations base singlePathFlag) state)[i]? = some check := by
    refine ⟨_, List.getElem?_eq_getElem ?_⟩
    rwa [← length_summaries pass]
  obtain ⟨outcome, gave⟩ := pass check (List.mem_of_getElem? atI)
  have listed := getElem?_summaries pass atI gave
  have taken := eq_take_of_mem_turns (List.mem_of_getElem? atI)
  have ran := Turn.run_of_take_ok ((congrArg Turn.result taken).symm.trans gave)
  exact ⟨check.item, outcome, item_of_getElem? atI, Option.some.inj (found.symm.trans listed),
    outcome_of_checkConfiguration ran⟩

/-- **A run that passes is not vacuous.** With settings and arguments that are accepted, it reports as many
configurations as the product of the sizes of the groups, and at least one. Under each of them it executed
the program for every argument, at least two, and compared all but the first if the flags hold the
single-path flag. Each execution ended with the exit code that its argument declares, and printed a report
that can be read. -/
theorem checkMatrix_not_vacuous {settings : Settings} (valid : settings.check = .ok ())
    {texts : List String} {arguments : List ExecutionArgument}
    (parsed : ExecutionArgument.parseAll texts = .ok arguments) (tools : Toolchain σ)
    (program : Program) (state : σ) {summary : Summary}
    (passed : (checkMatrix tools program arguments settings.singlePathFlag settings.baseFlags
      settings.matrix state).verdict = .ok summary) :
    let calls := (checkMatrix tools.recorded program arguments settings.singlePathFlag
      settings.baseFlags settings.matrix (state, [])).tools.2
    summary.configurations.length = (settings.matrix.groups.map List.length).foldl (· * ·) 1 ∧
    1 ≤ summary.configurations.length ∧
    ∀ (i : Nat) report, summary.configurations[i]? = some report →
      let start := i * (3 + 2 * texts.length)
      report.executions = texts.length ∧ 2 ≤ report.executions ∧
      (Text.occursIn settings.singlePathFlag report.flags = true →
        report.compared = report.executions - 1 ∧ 1 ≤ report.compared) ∧
      (∃ flags, report.flags = flagText flags ∧
        calls[start + 2]? = some (.compile program.compiled flags program.compiled)) ∧
      ∀ (j : Nat) text, texts[j]? = some text → ∃ argument run after statistics,
        ExecutionArgument.parse text = .ok argument ∧
        calls[start + (4 + 2 * j)]? = some (.simulate (program.compiled ++ argument.input)) ∧
        (tools.simulate (program.compiled ++ argument.input)).run
          (tools.after state (calls.take (start + (4 + 2 * j)))) = .ok run after ∧
        run.exitCode = some argument.expected ∧
        Statistics.ofReport run.stderr = .ok statistics := by
  intro calls
  obtain ⟨alternatives, -⟩ := settings.check_eq_ok_iff.mp valid
  obtain ⟨enough, each⟩ := ExecutionArgument.parseAll_eq_ok_iff.mp parsed
  have two : 2 ≤ texts.length := enough
  have sameLength : texts.length = arguments.length := each.length_eq
  have nonempty : arguments ≠ [] := by
    rintro rfl
    rw [List.length_nil] at sameLength
    omega
  obtain ⟨isCalls, accepted⟩ := checkMatrix_accepted nonempty passed
  obtain ⟨count, outcomes⟩ := exists_outcome_of_summary passed
  refine ⟨?_, ?_, fun i report atI => ?_⟩
  · rw [count, List.foldl_map]
    rfl
  · rw [count]
    exact FlagMatrix.size_pos alternatives
  · obtain ⟨c, outcome, listed, rfl, executions, compared⟩ := outcomes i report atI
    intro start
    have isSinglePath : c.singlePath = Text.occursIn settings.singlePathFlag c.text := by
      rw [FlagMatrix.configurations, List.getElem?_map, Option.map_eq_some_iff] at listed
      obtain ⟨flags, -, rfl⟩ := listed
      rfl
    refine ⟨executions.trans sameLength.symm, ?_, fun singlePath => ?_, ⟨c.flags, rfl, ?_⟩,
      fun j text atJ => ?_⟩
    · show 2 ≤ outcome.executions
      omega
    · have isCompared : outcome.compared = arguments.length - 1 := by
        rw [compared, isSinglePath]
        exact if_pos singlePath
      show outcome.compared = outcome.executions - 1 ∧ 1 ≤ outcome.compared
      omega
    · have built : (configurationSteps program arguments c)[2]? = some (.compile c program.compiled) :=
        rfl
      simp only [start, calls, isCalls, sameLength, List.getElem?_map,
        getElem?_schedule listed (show 2 < 3 + 2 * arguments.length by omega), built]
      rfl
    · have small : j < texts.length := (List.getElem?_eq_some_iff.mp atJ).1
      have inside : j < arguments.length := sameLength ▸ small
      have isParsed : ExecutionArgument.parse text = .ok arguments[j] := by
        have related := each.get small inside
        rwa [List.get_eq_getElem, List.get_eq_getElem,
          (List.getElem?_eq_some_iff.mp atJ).2] at related
      obtain ⟨called, run, after, statistics, ran, expected, read⟩ :=
        exists_simulation accepted listed (List.getElem?_eq_getElem inside)
      simp only [start, calls, isCalls, sameLength]
      exact ⟨arguments[j], run, after, statistics, isParsed, called, ran, expected, read⟩

/-- Tools whose program ends with code 7 if it was linked with input 2 last, and with code 0 otherwise. -/
def answeringTools : Toolchain String where
  compile _ _ _ := return ⟨true, ""⟩
  merge _ _ _ := return ⟨true, ""⟩
  link _ input _ := do
    set input
    return ⟨true, ""⟩
  simulate _ := do
    return ⟨some (if (← get) = "2" then 7 else 0), "",
      "Instruction Statistics:\n\nall:\nCycles: 9\nProfiling information:\n\n\n\n"⟩

/-- A run with the usual settings and two arguments executes all nine configurations for both of them; the
fifth one is single-path, so its second execution is compared with the first, and it is executed for the
second argument by the call at place 34. -/
theorem checkMatrix_not_vacuous_usual :
    let settings : Settings := {}
    let arguments : List ExecutionArgument := [⟨"1", 0⟩, ⟨"2", 7⟩]
    let calls := (checkMatrix answeringTools.recorded ⟨"p.c", "start.c", "p"⟩ arguments
      settings.singlePathFlag settings.baseFlags settings.matrix ("", [])).tools.2
    settings.check = .ok () ∧ ExecutionArgument.parseAll ["1=0", "2= +7"] = .ok arguments ∧
    ∃ summary, (checkMatrix answeringTools ⟨"p.c", "start.c", "p"⟩ arguments settings.singlePathFlag
        settings.baseFlags settings.matrix "").verdict = .ok summary ∧
      summary.configurations.length = 9 ∧
      ∃ report run after, summary.configurations[4]? = some report ∧ report.executions = 2 ∧
        Text.occursIn settings.singlePathFlag report.flags = true ∧ report.compared = 1 ∧
        calls[34]? = some (.simulate "p2") ∧
        (answeringTools.simulate "p2").run (answeringTools.after "" (calls.take 34)) = .ok run after ∧
        run.exitCode = some 7 := by
  intro settings arguments calls
  have valid : settings.check = .ok () := settings.check_eq_ok_iff.mpr ⟨by decide, by decide⟩
  have parsed : ExecutionArgument.parseAll ["1=0", "2= +7"] = .ok arguments := rfl
  have passes : ∀ (c : Configuration) (state : String),
      (checkConfiguration answeringTools ⟨"p.c", "start.c", "p"⟩ arguments c).run state =
        .ok ⟨⟨[.cycles "Cycles:" "9"]⟩, 2, if c.singlePath then 1 else 0⟩ "2" := by
    rintro ⟨flags, _ | _⟩ state <;> rfl
  obtain ⟨summary, passed⟩ : ∃ summary, (checkMatrix answeringTools ⟨"p.c", "start.c", "p"⟩ arguments
      settings.singlePathFlag settings.baseFlags settings.matrix "").verdict = .ok summary := by
    refine checkMatrix_ok_iff.mpr fun check member =>
      ⟨⟨⟨[.cycles "Cycles:" "9"]⟩, 2, if check.item.singlePath then 1 else 0⟩, ?_⟩
    rw [eq_take_of_mem_turns member, Turn.take_of_ok (passes _ _)]
  obtain ⟨count, -, reports⟩ :=
    checkMatrix_not_vacuous valid parsed answeringTools ⟨"p.c", "start.c", "p"⟩ "" passed
  have nine : summary.configurations.length = 9 := count
  have fifth := List.getElem?_eq_getElem (show 4 < summary.configurations.length by omega)
  obtain ⟨executions, -, comparisons, -, simulations⟩ := reports 4 _ fifth
  obtain ⟨c, outcome, listed, isReport, -⟩ := (exists_outcome_of_summary passed).2 4 _ fifth
  have isFifth : (({} : Settings).matrix.configurations ({} : Settings).baseFlags
      ({} : Settings).singlePathFlag)[4]? = some ⟨["-mpatmos-singlepath=main", "-O1"], true⟩ := rfl
  cases Option.some.inj (listed.symm.trans isFifth)
  have singlePath : Text.occursIn settings.singlePathFlag summary.configurations[4].flags = true := by
    rw [isReport]
    exact show Text.occursIn ({} : Settings).singlePathFlag "-mpatmos-singlepath=main -O1" = true from rfl
  have compared : summary.configurations[4].compared = 1 := by
    rw [(comparisons singlePath).1, executions]
    rfl
  obtain ⟨argument, run, after, -, isParsed, called, ran, expected, -⟩ := simulations 1 "2= +7" rfl
  cases Except.ok.inj (isParsed.symm.trans (show ExecutionArgument.parse "2= +7" = .ok ⟨"2", 7⟩ from rfl))
  exact ⟨valid, parsed, summary, passed, nine, _, run, after, fifth, executions,
    singlePath, compared, called, ran, expected⟩

end SinglePath
