/-
**The order in which things are listed does not matter.**

A check compares with the execution of the first argument, and it goes through configurations that share
the files of the program. With history-free tools neither can be noticed:

* `checkExecutions_ok_iff_consistent` — a check passes exactly when the arguments, each executed on its
  own, are consistent, which does not mention their order;
* `checkExecutions_perm`, `checkConfiguration_perm` — a check of the same arguments in another order, from
  another state, passes as well and finds the same;
* `FlagMatrix.configurations_perm` — alternatives in another order give the configurations in another
  order;
* `checkMatrix_perm` — a matrix run passes in every order or in none, and what it reports about a
  configuration is the same in all of them.
-/

import Mathlib.Data.List.Perm.Basic
import SinglePath.Proofs.Order.HistoryFree

namespace SinglePath

variable {σ : Type}

/-! ### Executions -/

/-- What is demanded of the executions of some arguments: all succeed and, for single-path code, any two
have the same text. -/
def Consistent (executed : ExecutionArgument → Except ExecutionFailure Statistics) (singlePath : Bool)
    (arguments : List ExecutionArgument) : Prop :=
  (∀ a ∈ arguments, ∃ statistics, executed a = .ok statistics) ∧
  (singlePath = true → ∀ a ∈ arguments, ∀ b ∈ arguments, ∀ s t,
    executed a = .ok s → executed b = .ok t → s.text = t.text)

theorem Consistent.perm {executed : ExecutionArgument → Except ExecutionFailure Statistics}
    {singlePath : Bool} {arguments arguments' : List ExecutionArgument}
    (consistent : Consistent executed singlePath arguments) (reordered : arguments.Perm arguments') :
    Consistent executed singlePath arguments' := by
  obtain ⟨succeed, pairwise⟩ := consistent
  refine ⟨fun a member => succeed a (reordered.mem_iff.mpr member), ?_⟩
  intro compared a member b member'
  exact pairwise compared a (reordered.mem_iff.mpr member) b (reordered.mem_iff.mpr member')

/-- Two passed checks that found the same, except for the statistics of code that is not single-path. -/
structure Outcome.Alike (singlePath : Bool) (outcome outcome' : Outcome) : Prop where
  executions : outcome.executions = outcome'.executions
  compared : outcome.compared = outcome'.compared
  text : singlePath = true → outcome.reference.text = outcome'.reference.text

section Executions

variable {tools : Toolchain σ} {program : String} {inv : σ → Prop} {singlePath : Bool} {state origin : σ}

/-- No execution is rejected exactly when the arguments, executed from one state, are consistent. -/
theorem none_rejected_iff_consistent
    (executes : ∀ argument, Uniform inv (execute tools program argument) inv) (holds : inv state)
    (atOrigin : inv origin) (first : ExecutionArgument) (rest : List ExecutionArgument) :
    (∀ run ∈ turns (execute tools program) (first :: rest) state,
      ¬ run.Rejected singlePath (Turn.take (execute tools program) first state)) ↔
    Consistent (fun a => (Turn.take (execute tools program) a origin).result) singlePath
      (first :: rest) := by
  have alone : ∀ P : ExecutionArgument → Except ExecutionFailure Statistics → Prop,
      (∀ run ∈ turns (execute tools program) (first :: rest) state, P run.item run.result) ↔
        ∀ a ∈ first :: rest, P a (Turn.take (execute tools program) a origin).result :=
    fun P => Uniform.forall_mem_turns_iff executes holds atOrigin
  rw [turns, none_rejected_iff, ← turns, alone fun _ result => ∃ statistics, result = .ok statistics]
  refine and_congr_right' (imp_congr_right fun _ => ?_)
  rw [alone fun _ result => ∀ b ∈ turns (execute tools program) (first :: rest) state, ∀ s t,
    result = .ok s → b.result = .ok t → s.text = t.text]
  refine forall₂_congr fun a _ => ?_
  exact alone fun _ result => ∀ s t, (Turn.take (execute tools program) a origin).result = .ok s →
    result = .ok t → s.text = t.text

/-- **A check passes exactly when its arguments are consistent.** -/
theorem checkExecutions_ok_iff_consistent
    (executes : ∀ argument, Uniform inv (execute tools program argument) inv) (holds : inv state)
    (atOrigin : inv origin) (first : ExecutionArgument) (rest : List ExecutionArgument)
    (outcome : Outcome) :
    (∃ after, (checkExecutions tools program (first :: rest) singlePath).run state =
      .ok outcome after) ↔
    Consistent (fun a => (Turn.take (execute tools program) a origin).result) singlePath
      (first :: rest) ∧
    ∃ reference, (Turn.take (execute tools program) first origin).result = .ok reference ∧
      outcome = ⟨reference, rest.length + 1, if singlePath then rest.length else 0⟩ := by
  have asAtOrigin := ((executes first).take holds atOrigin).1
  rw [← none_rejected_iff_consistent executes holds atOrigin, ← asAtOrigin]
  constructor
  · rintro ⟨after, passed⟩
    have none := checkExecutions_ok_iff.mp ⟨outcome, after, passed⟩
    obtain ⟨reference, known, found⟩ := checkExecutions_of_none_rejected none
    rw [passed] at found
    injection found with same
    exact ⟨none, reference, known, same⟩
  · rintro ⟨none, reference, known, rfl⟩
    obtain ⟨reference', known', found⟩ := checkExecutions_of_none_rejected none
    rw [known] at known'
    cases known'
    exact ⟨_, found⟩

/-- The same arguments in another order pass as well. -/
theorem checkExecutions_perm
    (executes : ∀ argument, Uniform inv (execute tools program argument) inv) {state' : σ}
    (holds : inv state) (holds' : inv state') {arguments arguments' : List ExecutionArgument}
    (reordered : arguments.Perm arguments') {outcome : Outcome} {after : σ}
    (passed : (checkExecutions tools program arguments singlePath).run state = .ok outcome after) :
    ∃ outcome' after', (checkExecutions tools program arguments' singlePath).run state' =
      .ok outcome' after' ∧ outcome.Alike singlePath outcome' := by
  cases arguments with
  | nil => cases passed
  | cons first rest =>
      cases arguments' with
      | nil => exact absurd reordered (List.not_perm_cons_nil)
      | cons first' rest' =>
          -- both checks are described by executions from the first state
          obtain ⟨consistent, reference, known, rfl⟩ :=
            (checkExecutions_ok_iff_consistent executes holds holds first rest outcome).mp ⟨_, passed⟩
          have consistent' := consistent.perm reordered
          obtain ⟨reference', known'⟩ := consistent'.1 first' (List.mem_cons_self ..)
          obtain ⟨after', passed'⟩ :=
            (checkExecutions_ok_iff_consistent executes holds' holds first' rest' _).mpr
              ⟨consistent', reference', known', rfl⟩
          have length : rest.length = rest'.length := by
            simpa using reordered.length_eq
          refine ⟨_, after', passed', ?_, ?_, ?_⟩
          · simp only [length]
          · simp only [length]
          · intro compared
            have listed : first' ∈ first :: rest := reordered.mem_iff.mpr (List.mem_cons_self ..)
            exact consistent.2 compared first (List.mem_cons_self ..) first' listed _ _ known known'

end Executions

/-! ### Configurations -/

/-- A configuration that passes also passes elsewhere in a run, and with its arguments in another
order. -/
theorem checkConfiguration_perm {tools : Toolchain σ} {origin : σ} (free : tools.HistoryFree origin)
    (program : Program) (c : Configuration) {state state' : σ}
    (reached : tools.Reachable origin state)
    (reached' : tools.Reachable origin state')
    {arguments arguments' : List ExecutionArgument} (reordered : arguments.Perm arguments')
    {outcome : Outcome} {after : σ}
    (passed : (checkConfiguration tools program arguments c).run state = .ok outcome after) :
    ∃ outcome' after', (checkConfiguration tools program arguments' c).run state' =
      .ok outcome' after' ∧ outcome.Alike c.singlePath outcome' := by
  have builds := uniform_build free program c state state' reached reached'
  rw [checkConfiguration_eq_build, EStateM.run_bind] at passed ⊢
  generalize (build tools program c).run state = built at builds passed
  generalize (build tools program c).run state' = built' at builds ⊢
  cases builds with
  | error failure _ _ => cases passed
  | ok _ compiled compiled' =>
      exact checkExecutions_perm (uniform_execute free program.compiled c.flags) compiled compiled'
        reordered passed

namespace FlagMatrix

theorem extensions_perm {groups groups' : List (List String)}
    (reordered : List.Forall₂ List.Perm groups groups') (flags : List String) :
    (extensions flags groups).Perm (extensions flags groups') := by
  induction reordered generalizing flags with
  | nil => exact .refl _
  | cons group _ ih => exact group.flatMap fun alternative _ => ih _

/-- **Alternatives in another order give the configurations in another order.** -/
theorem configurations_perm {matrix matrix' : FlagMatrix}
    (reordered : List.Forall₂ List.Perm matrix.groups matrix'.groups) (base : List String)
    (singlePathFlag : String) :
    (matrix.configurations base singlePathFlag).Perm (matrix'.configurations base singlePathFlag) :=
  (extensions_perm reordered _).map _

end FlagMatrix

/-! ### Matrix runs -/

/-- Two reports on a configuration that say the same, except for the statistics of code that is not
single-path. -/
structure ConfigurationSummary.Alike (report report' : ConfigurationSummary) : Prop where
  flags : report.flags = report'.flags
  singlePath : report.singlePath = report'.singlePath
  executions : report.executions = report'.executions
  compared : report.compared = report'.compared
  fingerprint : report.singlePath = true → report.fingerprint = report'.fingerprint

theorem Outcome.Alike.summary {c : Configuration} {outcome outcome' : Outcome}
    (alike : outcome.Alike c.singlePath outcome') :
    (ConfigurationSummary.of c outcome).Alike (.of c outcome') where
  flags := rfl
  singlePath := rfl
  executions := alike.executions
  compared := alike.compared
  fingerprint compared := by
    show outcome.reference.fingerprint = outcome'.reference.fingerprint
    unfold Statistics.fingerprint
    rw [alike.text compared]

section Matrix

variable {tools : Toolchain σ} {origin : σ} {program : Program}
  {arguments arguments' : List ExecutionArgument} {configurations configurations' : List Configuration}
  {state state' : σ}

/-- Checks of the same configuration find the same, wherever it stands in the two runs. -/
theorem alike_of_mem_turns (free : tools.HistoryFree origin)
    (reached : tools.Reachable origin state)
    (reached' : tools.Reachable origin state') (reordered : arguments.Perm arguments')
    {check check' : ConfigurationCheck σ}
    (member : check ∈ turns (checkConfiguration tools program arguments) configurations state)
    (member' : check' ∈ turns (checkConfiguration tools program arguments') configurations' state')
    (same : check.item = check'.item) {outcome : Outcome} (passed : check.result = .ok outcome) :
    ∃ outcome', check'.result = .ok outcome' ∧ outcome.Alike check.item.singlePath outcome' := by
  have before := Uniform.before_of_mem_turns (uniform_checkConfiguration free program arguments)
    reached member
  have before' := Uniform.before_of_mem_turns (uniform_checkConfiguration free program arguments')
    reached' member'
  rw [eq_take_of_mem_turns member] at passed
  obtain ⟨outcome', after', passed', alike⟩ := checkConfiguration_perm free program check.item before
    before' reordered (Turn.run_of_take_ok passed)
  refine ⟨outcome', ?_, alike⟩
  rw [eq_take_of_mem_turns member', ← same, Turn.take_of_ok passed']

/-- A run that passes in one order passes in every other. -/
theorem pass_of_reordered (free : tools.HistoryFree origin)
    (reached : tools.Reachable origin state)
    (reached' : tools.Reachable origin state') (reordered : arguments.Perm arguments')
    (rearranged : configurations.Perm configurations')
    (pass : ∀ check ∈ turns (checkConfiguration tools program arguments) configurations state,
      ∃ outcome, check.result = .ok outcome) :
    ∀ check ∈ turns (checkConfiguration tools program arguments') configurations' state',
      ∃ outcome, check.result = .ok outcome := by
  intro check' member'
  have listed : check'.item ∈ configurations := rearranged.mem_iff.mpr (item_mem_of_mem_turns member')
  obtain ⟨check, member, same⟩ :=
    exists_turn_of_mem (checkConfiguration tools program arguments) state listed
  obtain ⟨outcome, passed⟩ := pass check member
  obtain ⟨outcome', passed', _⟩ :=
    alike_of_mem_turns free reached reached' reordered member member' same passed
  exact ⟨outcome', passed'⟩

end Matrix

/-- **The order of arguments and alternatives does not matter.** With history-free tools, whatever they
were asked before, a run passes exactly when it passes with the arguments in another order and the
alternatives of every group in another order. Then the configurations are the same ones in another order,
and the two reports on the same configuration say the same. -/
theorem checkMatrix_perm {tools : Toolchain σ} {origin : σ} (free : tools.HistoryFree origin)
    (program : Program) (singlePathFlag : String) (base : List String)
    {arguments arguments' : List ExecutionArgument} (reordered : arguments.Perm arguments')
    (matrix matrix' : FlagMatrix) (rearranged : List.Forall₂ List.Perm matrix.groups matrix'.groups)
    (history history' : List Call) :
    let configurations := matrix.configurations base singlePathFlag
    let configurations' := matrix'.configurations base singlePathFlag
    let run := checkMatrix tools program arguments singlePathFlag base matrix
      (tools.after origin history)
    let run' := checkMatrix tools program arguments' singlePathFlag base matrix'
      (tools.after origin history')
    ((∃ summary, run.verdict = .ok summary) ↔ ∃ summary, run'.verdict = .ok summary) ∧
    configurations.Perm configurations' ∧
    ∀ summary summary', run.verdict = .ok summary → run'.verdict = .ok summary' →
      summary.configurations.length = configurations.length ∧
      summary'.configurations.length = configurations'.length ∧
      ∀ (i j : Nat) c, configurations[i]? = some c → configurations'[j]? = some c →
        ∃ report report', summary.configurations[i]? = some report ∧
          summary'.configurations[j]? = some report' ∧ report.Alike report' := by
  intro configurations configurations' run run'
  have reached := tools.reachable_after origin history
  have reached' := tools.reachable_after origin history'
  have same : configurations.Perm configurations' :=
    FlagMatrix.configurations_perm rearranged base singlePathFlag
  refine ⟨?_, same, ?_⟩
  · rw [checkMatrix_ok_iff, checkMatrix_ok_iff]
    exact ⟨pass_of_reordered free reached reached' reordered same,
      pass_of_reordered free reached' reached reordered.symm same.symm⟩
  · intro summary summary' passed passed'
    have pass := checkMatrix_ok_iff.mp ⟨summary, passed⟩
    have pass' := checkMatrix_ok_iff.mp ⟨summary', passed'⟩
    have closed : run = _ := checkMatrix_passed pass
    have closed' : run' = _ := checkMatrix_passed pass'
    rw [closed] at passed
    rw [closed'] at passed'
    cases passed
    cases passed'
    refine ⟨?_, ?_, ?_⟩
    · rw [length_summaries pass, length_turns]
    · rw [length_summaries pass', length_turns]
    · intro i j c atI atJ
      obtain ⟨check, found, isC⟩ := exists_turn_of_getElem? (checkConfiguration tools program arguments)
        (tools.after origin history) atI
      obtain ⟨check', found', isC'⟩ := exists_turn_of_getElem?
        (checkConfiguration tools program arguments') (tools.after origin history') atJ
      obtain ⟨outcome, gave⟩ := pass check (List.mem_of_getElem? found)
      obtain ⟨outcome', gave', alike⟩ := alike_of_mem_turns free reached reached' reordered
        (List.mem_of_getElem? found) (List.mem_of_getElem? found') (isC.trans isC'.symm) gave
      refine ⟨_, _, getElem?_summaries pass found gave, getElem?_summaries pass' found' gave', ?_⟩
      rw [isC', ← isC]
      exact alike.summary

/-- Tools that know nothing but what history-free tools may: single-path programs take seven cycles, and
others as many as their input says. -/
def rememberingTools : Toolchain Memory where
  compile input flags output := do
    modify (·.note (.compile input flags output))
    return ⟨true, ""⟩
  merge _ _ _ := return ⟨true, ""⟩
  link object input output := do
    modify (·.note (.link object input output))
    return ⟨true, ""⟩
  simulate _ := do
    let m ← get
    let cycles := if m.flags = some ["-sp"] then "7" else m.input.getD "0"
    return ⟨some 0, "", "Instruction Statistics:\n\nall:\nCycles: " ++ cycles ++
      "\nProfiling information:\n\n\n\n"⟩

theorem after_rememberingTools (history : List Call) :
    rememberingTools.after ⟨none, none⟩ history = remembered history := by
  unfold Toolchain.after remembered
  congr
  funext m call
  cases call <;> rfl

theorem historyFree_rememberingTools : rememberingTools.HistoryFree ⟨none, none⟩ := by
  intro history history' call same
  rw [after_rememberingTools, after_rememberingTools]
  cases call with
  | compile input flags output => rfl
  | merge startRoutine source output => rfl
  | link object input output => rfl
  | simulate executable =>
      have sameMemory : remembered history = remembered history' := same
      rw [sameMemory]

/-- A run that passes also passes with its arguments swapped and its two configurations swapped. -/
theorem checkMatrix_perm_swapped :
    ∃ summary summary',
      (checkMatrix rememberingTools ⟨"p.c", "start.c", "p"⟩ [⟨"1", 0⟩, ⟨"2", 0⟩] "-sp" []
        ⟨[["-O1", "-sp"]]⟩ ⟨none, none⟩).verdict = .ok summary ∧
      (checkMatrix rememberingTools ⟨"p.c", "start.c", "p"⟩ [⟨"2", 0⟩, ⟨"1", 0⟩] "-sp" []
        ⟨[["-sp", "-O1"]]⟩ ⟨none, none⟩).verdict = .ok summary' ∧
      ∃ report report', summary.configurations[1]? = some report ∧
        summary'.configurations[0]? = some report' ∧ report.Alike report' := by
  have free := historyFree_rememberingTools
  have atStart := rememberingTools.reachable_after ⟨none, none⟩ []
  have pass : ∀ check ∈ turns
      (checkConfiguration rememberingTools ⟨"p.c", "start.c", "p"⟩ [⟨"1", 0⟩, ⟨"2", 0⟩])
      (FlagMatrix.configurations ⟨[["-O1", "-sp"]]⟩ [] "-sp") ⟨none, none⟩,
        ∃ outcome, check.result = .ok outcome := by
    -- configurations do not influence each other, so each is run from the start
    refine (Uniform.forall_mem_turns_iff (uniform_checkConfiguration free _ _) atStart atStart
      (P := fun _ result => ∃ outcome, result = .ok outcome)).mpr ?_
    intro c listed
    have known : c ∈ [⟨["-O1"], false⟩, ⟨["-sp"], true⟩] := listed
    rcases List.mem_pair.mp known with rfl | rfl
    · exact ⟨⟨⟨[.cycles "Cycles:" "1"]⟩, 2, 0⟩, rfl⟩
    · exact ⟨⟨⟨[.cycles "Cycles:" "7"]⟩, 2, 1⟩, rfl⟩
  obtain ⟨summary, passed⟩ := checkMatrix_ok_iff.mpr pass
  obtain ⟨verdicts, -, reports⟩ := checkMatrix_perm free ⟨"p.c", "start.c", "p"⟩ "-sp" []
    (.swap ⟨"2", 0⟩ ⟨"1", 0⟩ []) ⟨[["-O1", "-sp"]]⟩ ⟨[["-sp", "-O1"]]⟩
    (.cons (.swap "-sp" "-O1" []) .nil) [] []
  obtain ⟨summary', passed'⟩ := verdicts.mp ⟨summary, passed⟩
  obtain ⟨-, -, alike⟩ := reports summary summary' passed passed'
  exact ⟨summary, summary', passed, passed', alike 1 0 ⟨["-sp"], true⟩ rfl rfl⟩

end SinglePath
