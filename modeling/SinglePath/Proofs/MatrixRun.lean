/-
**A matrix run checks the configurations one after the other.**

The walk over a matrix is a recursion over its groups, with a visit at every leaf that may fail. It is
the plain loop over the list of configurations:

* `walk_eq_forM` — a walk visits the configurations in order, up to the first visit that fails;
* `forM_visit_passed`, `forM_visit_stopped` — what the visits of a run leave behind;
* `checkMatrix_refines` — a run is the list of checks `turns (checkConfiguration …)`, cut after the first
  that fails: it passes exactly when all of them do, and then sums up each of them.
-/

import SinglePath.Check.Matrix
import SinglePath.Proofs.Executions

namespace SinglePath

variable {σ : Type}

/-! ### The walk -/

namespace FlagMatrix

/-- Visits at the leaves of the groups are visits of the list of leaves. -/
theorem visitExtensions_eq_forM {ε : Type} (visit : List String → EStateM ε σ Unit)
    (flags : List String) (groups : List (List String)) :
    visitExtensions visit flags groups = (extensions flags groups).forM visit := by
  induction groups generalizing flags with
  | nil =>
      rw [visitExtensions, extensions]
      simp
  | cons group rest ih =>
      rw [visitExtensions, extensions]
      induction group with
      | nil => rfl
      | cons alternative others alternatives =>
          rw [List.flatMap_cons]
          simp only [List.forM_eq_forM, List.forM_cons, List.forM_append] at alternatives ⊢
          rw [alternatives, ih]
          simp

/-- **A walk visits the configurations in order**, up to the first visit that fails. -/
theorem walk_eq_forM {ε : Type} (m : FlagMatrix) (base : List String) (singlePathFlag : String)
    (visit : Configuration → EStateM ε σ Unit) :
    m.walk base singlePathFlag visit = (m.configurations base singlePathFlag).forM visit := by
  rw [walk, visitExtensions_eq_forM, configurations]
  generalize extensions (baseFlags base) m.groups = leaves
  induction leaves with
  | nil => rfl
  | cons flags rest ih =>
      simp only [List.forM_eq_forM, List.forM_cons, List.map_cons] at ih ⊢
      rw [ih]

end FlagMatrix

/-! ### The visits of a run -/

/-- A configuration with what its check gave. -/
abbrev ConfigurationCheck (σ : Type) : Type := Turn Configuration TestFailure σ Outcome

/-- What a list of checks contributes to the summary. -/
def summaries (checks : List (ConfigurationCheck σ)) : List ConfigurationSummary :=
  checks.filterMap fun check =>
    match check.result with
    | .ok outcome => some (.of check.item outcome)
    | .error _ => none

theorem summaries_cons_ok {check : ConfigurationCheck σ} {outcome : Outcome}
    (gave : check.result = .ok outcome) (rest : List (ConfigurationCheck σ)) :
    summaries (check :: rest) = .of check.item outcome :: summaries rest := by
  unfold summaries
  rw [List.filterMap_cons, gave]

/-- What a summary takes from its configuration stands in the order of the configurations. -/
theorem map_summaries {β : Type} (view : ConfigurationSummary → β) (viewed : Configuration → β)
    (taken : ∀ c outcome, view (.of c outcome) = viewed c) {checks : List (ConfigurationCheck σ)}
    (pass : ∀ check ∈ checks, ∃ outcome, check.result = .ok outcome) :
    (summaries checks).map view = (checks.map Turn.item).map viewed := by
  induction checks with
  | nil => rfl
  | cons check rest ih =>
      obtain ⟨outcome, gave⟩ := pass check (List.mem_cons_self ..)
      rw [summaries_cons_ok gave, List.map_cons, List.map_cons, List.map_cons, taken,
        ih fun later member => pass later (List.mem_cons_of_mem _ member)]

/-- Checks that all pass are summed up one by one. -/
theorem length_summaries {checks : List (ConfigurationCheck σ)}
    (pass : ∀ check ∈ checks, ∃ outcome, check.result = .ok outcome) :
    (summaries checks).length = checks.length := by
  have views := map_summaries ConfigurationSummary.flags Configuration.text (fun _ _ => rfl) pass
  have counts := congrArg List.length views
  rwa [List.length_map, List.length_map, List.length_map] at counts

theorem getElem?_summaries {checks : List (ConfigurationCheck σ)}
    (pass : ∀ check ∈ checks, ∃ outcome, check.result = .ok outcome) {i : Nat}
    {check : ConfigurationCheck σ} {outcome : Outcome} (found : checks[i]? = some check)
    (gave : check.result = .ok outcome) :
    (summaries checks)[i]? = some (.of check.item outcome) := by
  induction checks generalizing i with
  | nil => simp at found
  | cons head rest ih =>
      obtain ⟨outcome', gave'⟩ := pass head (List.mem_cons_self ..)
      rw [summaries_cons_ok gave']
      cases i with
      | zero =>
          cases found
          rw [gave] at gave'
          cases gave'
          rfl
      | succ i =>
          exact ih (fun later member => pass later (List.mem_cons_of_mem _ member)) found

/-- Among checks that all pass, as many summaries as configurations are single-path. -/
theorem countP_summaries {checks : List (ConfigurationCheck σ)}
    (pass : ∀ check ∈ checks, ∃ outcome, check.result = .ok outcome) :
    (summaries checks).countP (·.singlePath) = (checks.map Turn.item).countP (·.singlePath) := by
  have views := map_summaries ConfigurationSummary.singlePath Configuration.singlePath
    (fun _ _ => rfl) pass
  have counts := congrArg (List.countP id) views
  rwa [List.countP_map, List.countP_map] at counts

section Visits

variable {tools : Toolchain σ} {program : Program} {arguments : List ExecutionArgument}

/-- A check that passes is summed up. -/
theorem run_visit_of_ok {c : Configuration} {progress : Progress σ} {outcome : Outcome} {after : σ}
    (ran : (checkConfiguration tools program arguments c).run progress.tools = .ok outcome after) :
    (Progress.visit tools program arguments c).run progress =
      .ok () ⟨after, progress.started ++ [c], progress.summary.push (.of c outcome)⟩ := by
  simp only [EStateM.run, Progress.visit] at ran ⊢
  rw [ran]

/-- A check that fails ends the run, with the configuration among those started. -/
theorem run_visit_of_error {c : Configuration} {progress : Progress σ} {failure : TestFailure}
    {after : σ}
    (ran : (checkConfiguration tools program arguments c).run progress.tools = .error failure after) :
    (Progress.visit tools program arguments c).run progress =
      .error ⟨c.text, failure⟩ ⟨after, progress.started ++ [c], progress.summary⟩ := by
  simp only [EStateM.run, Progress.visit] at ran ⊢
  rw [ran]

/-- Checks that all pass are all summed up. -/
theorem forM_visit_passed {configurations : List Configuration} {progress : Progress σ}
    (pass : ∀ check ∈ turns (checkConfiguration tools program arguments) configurations
      progress.tools, ∃ outcome, check.result = .ok outcome) :
    (configurations.forM (Progress.visit tools program arguments)).run progress =
      .ok () ⟨stateAfter progress.tools
          (turns (checkConfiguration tools program arguments) configurations progress.tools),
        progress.started ++ configurations,
        ⟨progress.summary.program, progress.summary.arguments,
          progress.summary.configurations ++ summaries
            (turns (checkConfiguration tools program arguments) configurations progress.tools)⟩⟩ := by
  induction configurations generalizing progress with
  | nil => simp [turns, stateAfter, summaries]
  | cons c rest ih =>
      rw [turns] at pass ⊢
      obtain ⟨outcome, gave⟩ := pass _ (List.mem_cons_self ..)
      simp only [List.forM_eq_forM, List.forM_cons, EStateM.run_bind] at ih ⊢
      rw [run_visit_of_ok (Turn.run_of_take_ok gave)]
      simp only
      rw [ih fun check member => pass check (List.mem_cons_of_mem _ member),
        stateAfter_cons, summaries_cons_ok gave]
      simp [Summary.push]

/-- The first check that fails ends the run. -/
theorem forM_visit_stopped {configurations : List Configuration} {progress : Progress σ} {k : Nat}
    {check : ConfigurationCheck σ} {failure : TestFailure}
    (found : (turns (checkConfiguration tools program arguments) configurations
      progress.tools)[k]? = some check)
    (failed : check.result = .error failure)
    (pass : ∀ i < k, ∀ earlier, (turns (checkConfiguration tools program arguments) configurations
      progress.tools)[i]? = some earlier → ∃ outcome, earlier.result = .ok outcome) :
    ∃ summary, (configurations.forM (Progress.visit tools program arguments)).run progress =
      .error ⟨check.item.text, failure⟩
        ⟨check.after, progress.started ++ configurations.take (k + 1), summary⟩ := by
  induction configurations generalizing progress k with
  | nil => simp [turns] at found
  | cons c rest ih =>
      rw [turns] at found pass
      simp only [List.forM_eq_forM, List.forM_cons, EStateM.run_bind] at ih ⊢
      cases k with
      | zero =>
          cases found
          rw [run_visit_of_error (Turn.run_of_take_error failed)]
          simp
      | succ k =>
          obtain ⟨outcome, gave⟩ := pass 0 (Nat.succ_pos k) _ rfl
          rw [run_visit_of_ok (Turn.run_of_take_ok gave)]
          simp only
          obtain ⟨summary, stopped⟩ := @ih
            ⟨(Turn.take (checkConfiguration tools program arguments) c progress.tools).after,
              progress.started ++ [c], progress.summary.push (.of c outcome)⟩ k found
            fun i small earlier => pass (i + 1) (Nat.succ_lt_succ small) earlier
          rw [stopped]
          simp

end Visits

/-! ### The run -/

section Run

variable {tools : Toolchain σ} {program : Program} {arguments : List ExecutionArgument}
  {singlePathFlag : String} {base : List String} {matrix : FlagMatrix} {state : σ}

/-- A run whose checks all pass sums them all up. -/
theorem checkMatrix_passed
    (pass : ∀ check ∈ turns (checkConfiguration tools program arguments)
      (matrix.configurations base singlePathFlag) state, ∃ outcome, check.result = .ok outcome) :
    checkMatrix tools program arguments singlePathFlag base matrix state =
      ⟨.ok ⟨program.source, arguments.map ExecutionArgument.text,
          summaries (turns (checkConfiguration tools program arguments)
            (matrix.configurations base singlePathFlag) state)⟩,
        matrix.configurations base singlePathFlag,
        stateAfter state (turns (checkConfiguration tools program arguments)
          (matrix.configurations base singlePathFlag) state)⟩ := by
  have visits := @forM_visit_passed σ tools program arguments
    (matrix.configurations base singlePathFlag) ⟨state, [], .start program.source arguments⟩ pass
  rw [← FlagMatrix.walk_eq_forM] at visits
  rw [checkMatrix]
  simp only [visits]
  rfl

/-- A run ends with its first check that fails. -/
theorem checkMatrix_stopped {k : Nat} {check : ConfigurationCheck σ} {failure : TestFailure}
    (found : (turns (checkConfiguration tools program arguments)
      (matrix.configurations base singlePathFlag) state)[k]? = some check)
    (failed : check.result = .error failure)
    (pass : ∀ i < k, ∀ earlier, (turns (checkConfiguration tools program arguments)
      (matrix.configurations base singlePathFlag) state)[i]? = some earlier →
        ∃ outcome, earlier.result = .ok outcome) :
    checkMatrix tools program arguments singlePathFlag base matrix state =
      ⟨.error ⟨check.item.text, failure⟩,
        (matrix.configurations base singlePathFlag).take (k + 1), check.after⟩ := by
  obtain ⟨summary, visits⟩ := @forM_visit_stopped σ tools program arguments
    (matrix.configurations base singlePathFlag) ⟨state, [], .start program.source arguments⟩ k check
    failure found failed pass
  rw [← FlagMatrix.walk_eq_forM] at visits
  rw [checkMatrix]
  simp only [visits]
  rfl

/-- A run passes when all its checks do, and only then. -/
theorem checkMatrix_ok_iff :
    (∃ summary,
      (checkMatrix tools program arguments singlePathFlag base matrix state).verdict = .ok summary) ↔
    ∀ check ∈ turns (checkConfiguration tools program arguments)
      (matrix.configurations base singlePathFlag) state, ∃ outcome, check.result = .ok outcome := by
  constructor
  · rintro ⟨summary, passed⟩
    rcases all_ok_or_firstFailed (turns (checkConfiguration tools program arguments)
      (matrix.configurations base singlePathFlag) state)
      with pass | ⟨k, check, failure, found, gave, earlier⟩
    · exact pass
    · rw [checkMatrix_stopped found gave earlier] at passed
      cases passed
  · intro pass
    rw [checkMatrix_passed pass]
    exact ⟨_, rfl⟩

/-- A run fails when there is a first check that does, and only then. -/
theorem checkMatrix_error_iff :
    (∃ failure,
      (checkMatrix tools program arguments singlePathFlag base matrix state).verdict =
        .error failure) ↔
    ∃ k, FirstFailed (turns (checkConfiguration tools program arguments)
      (matrix.configurations base singlePathFlag) state) k := by
  constructor
  · rintro ⟨failure, failed⟩
    rcases all_ok_or_firstFailed (turns (checkConfiguration tools program arguments)
      (matrix.configurations base singlePathFlag) state) with pass | first
    · rw [checkMatrix_passed pass] at failed
      cases failed
    · exact first
  · rintro ⟨k, check, failure, found, gave, earlier⟩
    rw [checkMatrix_stopped found gave earlier]
    exact ⟨_, rfl⟩

/-- A failure of a run is one of a configuration. -/
theorem exists_check_of_error {failure : MatrixFailure}
    (failed : (checkMatrix tools program arguments singlePathFlag base matrix state).verdict =
      .error failure) :
    ∃ c ∈ matrix.configurations base singlePathFlag, failure.configuration = c.text ∧
      ∃ before after, (checkConfiguration tools program arguments c).run before =
        .error failure.failure after := by
  obtain ⟨k, check, cause, found, gave, earlier⟩ := checkMatrix_error_iff.mp ⟨failure, failed⟩
  rw [checkMatrix_stopped found gave earlier] at failed
  cases failed
  rw [eq_take_of_mem_turns (List.mem_of_getElem? found)] at gave
  exact ⟨check.item, List.mem_of_getElem? (item_of_getElem? found), rfl, _, _,
    Turn.run_of_take_error gave⟩

end Run

/-! ### The calls of a run -/

/-- A call that is no compile, or a compile with the given flags. -/
def Call.CompilesWith (flags : List String) : Call → Prop
  | .compile _ used _ => used = flags
  | .merge .. | .link .. | .simulate .. => True

/-- **A check compiles with the flags of its configuration only.** -/
theorem callsOnly_checkConfiguration (tools : Toolchain σ) (program : Program)
    (arguments : List ExecutionArgument) (c : Configuration) :
    CallsOnly (Call.CompilesWith c.flags) (checkConfiguration tools program arguments c)
      (checkConfiguration tools.recorded program arguments c) := by
  have compiles : ∀ input, Call.CompilesWith c.flags (.compile input c.flags program.compiled) :=
    fun _ => rfl
  have merges : Call.CompilesWith c.flags
      (.merge program.startRoutine program.source program.compiled) := trivial
  refine (callsOnly_require (callsOnly_noting (compiles program.source) _) _ _).bind fun _ => ?_
  refine (callsOnly_require (callsOnly_noting merges _) _ _).bind fun _ => ?_
  refine (callsOnly_require (callsOnly_noting (compiles program.compiled) _) _ _).bind fun _ => ?_
  exact callsOnly_checkExecutions (fun _ _ _ => trivial) (fun _ => trivial) tools program.compiled
    arguments c.singlePath

/-- Summaries depend only on the configurations and on what their checks gave. -/
theorem summaries_congr {σ σ' : Type} {checks : List (ConfigurationCheck σ)}
    {others : List (ConfigurationCheck σ')}
    (same : checks.map (fun check => (check.item, check.result)) =
      others.map fun check => (check.item, check.result)) :
    summaries checks = summaries others := by
  have pairs := congrArg (List.filterMap fun pair : Configuration × Except TestFailure Outcome =>
    match pair.2 with
    | .ok outcome => some (ConfigurationSummary.of pair.1 outcome)
    | .error _ => none) same
  rw [List.filterMap_map, List.filterMap_map] at pairs
  exact pairs

/-- **The calls of a run** are those of the checks of the configurations it started. -/
theorem checkMatrix_recorded (tools : Toolchain σ) (program : Program)
    (arguments : List ExecutionArgument) (singlePathFlag : String) (base : List String)
    (matrix : FlagMatrix) (state : σ) (calls : List Call) :
    let checks := turns (checkConfiguration tools program arguments)
      (matrix.configurations base singlePathFlag) state
    let run := checkMatrix tools program arguments singlePathFlag base matrix state
    checkMatrix tools.recorded program arguments singlePathFlag base matrix (state, calls) =
      ⟨run.verdict, run.started, (run.tools, calls ++
        callsOfTurns (checkConfiguration tools.recorded program arguments)
          (checks.take run.started.length))⟩ := by
  intro checks run
  have records := fun c => (callsOnly_checkConfiguration tools program arguments c).records
  rcases all_ok_or_firstFailed checks with pass | ⟨k, failed⟩
  · have same := results_recorded records (matrix.configurations base singlePathFlag) state calls
    have passLogged : ∀ check ∈ turns (checkConfiguration tools.recorded program arguments)
        (matrix.configurations base singlePathFlag) (state, calls),
          ∃ outcome, check.result = .ok outcome := by
      intro check member
      have pair : (check.item, check.result) ∈ checks.map fun check => (check.item, check.result) :=
        same ▸ List.mem_map_of_mem member
      obtain ⟨plain, plainMember, equal⟩ := List.mem_map.mp pair
      obtain ⟨outcome, gave⟩ := pass plain plainMember
      exact ⟨outcome, (congrArg Prod.snd equal).symm.trans gave⟩
    have closed : run = _ := checkMatrix_passed pass
    rw [closed, checkMatrix_passed passLogged, stateAfter_recorded records, summaries_congr same]
    have whole : checks.take (matrix.configurations base singlePathFlag).length = checks :=
      List.take_of_length_le (by simp [checks])
    rw [whole]
  · obtain ⟨check', failure', foundLogged, gaveLogged, earlierLogged⟩ := failed.recorded records calls
    obtain ⟨check, failure, found, gave, earlier⟩ := failed
    have closed : run = _ := checkMatrix_stopped found gave earlier
    rw [closed, checkMatrix_stopped foundLogged gaveLogged earlierLogged]
    rw [turns_recorded records, show (turns _ _ _)[k]? = some check from found] at foundLogged
    cases foundLogged
    have sameFailure : failure' = failure := by
      have both := gaveLogged.symm.trans gave
      injection both
    have size : ((matrix.configurations base singlePathFlag).take (k + 1)).length = k + 1 := by
      have bound := (List.getElem?_eq_some_iff.mp found).1
      simp only [checks, length_turns] at bound
      rw [List.length_take]
      omega
    rw [sameFailure, size]
    rfl

/-- **A matrix run is a sequence of checks.** It passes exactly when the checks of all configurations pass,
and then sums up each of them. Otherwise it fails as the first check that fails does, after having
started the configurations up to that one. Either way it makes the calls of the checks it started and
no others. -/
theorem checkMatrix_refines (tools : Toolchain σ) (program : Program)
    (arguments : List ExecutionArgument) (singlePathFlag : String) (base : List String)
    (matrix : FlagMatrix) (state : σ) :
    let configurations := matrix.configurations base singlePathFlag
    let checks := turns (checkConfiguration tools program arguments) configurations state
    let run := checkMatrix tools program arguments singlePathFlag base matrix state
    ((∃ summary, run.verdict = .ok summary) ↔
      ∀ check ∈ checks, ∃ outcome, check.result = .ok outcome) ∧
    (∀ summary, run.verdict = .ok summary →
      summary.program = program.source ∧
      summary.arguments = arguments.map ExecutionArgument.text ∧
      summary.configurations.length = configurations.length ∧
      (∀ (i : Nat) c outcome, configurations[i]? = some c →
        checks[i]?.map Turn.result = some (.ok outcome) →
        summary.configurations[i]? = some
          { flags := c.text, singlePath := c.singlePath, executions := outcome.executions,
            compared := outcome.compared, statistics := outcome.reference.entries,
            fingerprint := Digest.Sha256.hexDigest
              (Text.Utf8.encode (Statistics.text ⟨outcome.reference.entries⟩)) }) ∧
      summary.singlePathCount = configurations.countP (·.singlePath) ∧
      run.started = configurations ∧ run.tools = stateAfter state checks) ∧
    ((∃ failure, run.verdict = .error failure) ↔ ∃ k, FirstFailed checks k) ∧
    (∀ k, FirstFailed checks k → ∃ c check failure,
      configurations[k]? = some c ∧ checks[k]? = some check ∧ check.result = .error failure ∧
      run.verdict = .error ⟨c.text, failure⟩ ∧ run.started = configurations.take (k + 1) ∧
      run.tools = check.after) ∧
    ∀ calls,
      checkMatrix tools.recorded program arguments singlePathFlag base matrix (state, calls) =
        ⟨run.verdict, run.started, (run.tools, calls ++
          (checks.take run.started.length).flatMap fun check =>
            callsOf (checkConfiguration tools.recorded program arguments check.item) check.before)⟩ := by
  intro configurations checks run
  refine ⟨checkMatrix_ok_iff, ?_, checkMatrix_error_iff, ?_,
    checkMatrix_recorded tools program arguments singlePathFlag base matrix state⟩
  · intro summary passed
    have pass := checkMatrix_ok_iff.mp ⟨summary, passed⟩
    have closed : run = _ := checkMatrix_passed pass
    rw [closed] at passed ⊢
    cases passed
    refine ⟨rfl, rfl, ?_, ?_, ?_, rfl, rfl⟩
    · rw [length_summaries pass, length_turns]
    · intro i c outcome atConfiguration gave
      obtain ⟨check, found, result⟩ := Option.map_eq_some_iff.mp gave
      have item : c = check.item :=
        Option.some.inj (atConfiguration.symm.trans (item_of_getElem? found))
      rw [getElem?_summaries pass found result, item]
      rfl
    · show (summaries checks).countP _ = _
      rw [countP_summaries pass, map_item_turns]
  · rintro k ⟨check, failure, found, gave, earlier⟩
    have closed : run = _ := checkMatrix_stopped found gave earlier
    exact ⟨check.item, check, failure, item_of_getElem? found, found, gave,
      congrArg MatrixRun.verdict closed, congrArg MatrixRun.started closed,
      congrArg MatrixRun.tools closed⟩

end SinglePath
