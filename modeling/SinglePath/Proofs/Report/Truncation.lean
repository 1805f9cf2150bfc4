/-
**A report that is cut off.**

* `Stage.Continues` — behind a list of facts, only calls have been found since;
* `Stage.continues_step`, `Stage.continues_scan` — a line in the profiling table adds calls at most, and so
  do all lines behind it;
* `ofReport_of_prefix` — the first lines of a report that can be read give an error that says that the
  report is too short, or the facts of the whole report up to some of its calls.
-/

import SinglePath.Proofs.Report.Stages

namespace SinglePath.Report

/-- Nothing but counts of calls. -/
def OnlyCalls (facts : List Statistic) : Prop :=
  ∀ fact ∈ facts, ∃ function count, fact = .calls function count

theorem onlyCalls_nil : OnlyCalls [] := by
  intro fact member
  cases member

theorem OnlyCalls.concat {facts : List Statistic} (calls : OnlyCalls facts) (function count : String) :
    OnlyCalls (facts ++ [.calls function count]) := by
  intro fact member
  rcases List.mem_append.mp member with earlier | last
  · exact calls fact earlier
  · exact ⟨function, count, List.mem_singleton.mp last⟩

namespace Stage

/-- In the profiling table, with calls behind the given facts; or behind a line that cannot be read. -/
def Continues (facts : List Statistic) (stage : Stage) : Prop :=
  (∃ error, stage = failed error) ∨
    ∃ calls, stage.profiled? = some (facts ++ calls) ∧ OnlyCalls calls

/-- **A line in the profiling table** adds the calls of one function at most. -/
theorem continues_step {facts : List Statistic} {stage : Stage} (continues : Continues facts stage)
    (line : Line) : Continues facts (step stage line) := by
  rcases continues with ⟨error, rfl⟩ | ⟨calls, here, onlyCalls⟩
  · exact Or.inl ⟨error, rfl⟩
  cases stage with
  | opening found =>
      rw [step]
      cases line.functionName? with
      | none => exact Or.inr ⟨calls, here, onlyCalls⟩
      | some function => exact Or.inr ⟨calls, here, onlyCalls⟩
  | figures function found => exact Or.inr ⟨calls, here, onlyCalls⟩
  | invocations function found =>
      injection here with same
      rw [step, same]
      cases line.field 0 with
      | error error => exact Or.inl ⟨error, rfl⟩
      | ok count =>
          refine Or.inr ⟨calls ++ [.calls function count], ?_, onlyCalls.concat function count⟩
          rw [behind, profiled?, List.append_assoc]
  | remainder found => exact Or.inr ⟨calls, here, onlyCalls⟩
  | preamble | columns | rows | cycles | profiling | titles | failed => cases here

/-- **Lines behind a stage of the profiling table** add calls at most. -/
theorem continues_scan {facts : List Statistic} {stage : Stage} (continues : Continues facts stage)
    (lines : List Line) : Continues facts (scan stage lines) := by
  induction lines generalizing stage with
  | nil => exact continues
  | cons line lines ih => exact ih (continues_step continues line)

theorem Continues.entries_of_finish {facts : List Statistic} {stage : Stage} {s : Statistics}
    (continues : Continues facts stage) (ends : stage.finish = .ok s) :
    ∃ calls, s.entries = facts ++ calls ∧ OnlyCalls calls := by
  rcases continues with ⟨error, rfl⟩ | ⟨calls, here, onlyCalls⟩
  · cases ends
  · rcases stage.finish_cases with ⟨-, other⟩ | ⟨_, other⟩ | ⟨found, listed, other⟩ | ⟨_, -, other⟩
    · cases ends.symm.trans other
    · cases ends.symm.trans other
    · cases ends.symm.trans other
      exact ⟨calls, Option.some.inj (listed.symm.trans here), onlyCalls⟩
    · cases ends.symm.trans other

/-- Above the instruction table no line has been its header. -/
theorem scan_eq_preamble {stage : Stage} {lines : List Line} (above : scan stage lines = preamble) :
    stage = preamble ∧ ∀ line ∈ lines, line.trimmed ≠ instructionHeader := by
  induction lines generalizing stage with
  | nil => exact ⟨above, fun _ member => absurd member List.not_mem_nil⟩
  | cons line lines ih =>
      obtain ⟨before, later⟩ := ih above
      obtain ⟨start, noHeader⟩ := step_eq_preamble before
      exact ⟨start, List.forall_mem_cons.mpr ⟨noHeader, later⟩⟩

end Stage

/-- **Cutting off a report never changes a value.** Where a report can be read, its first lines alone are
no report when they end above the header of the instruction table, or the report is too short, or they
give all facts of the whole one up to some calls at its end. -/
theorem ofReport_of_prefix {raw cut : String} {s : Statistics}
    (read : Statistics.ofReport raw = .ok s) (shorter : Text.lines cut <+: Text.lines raw) :
    (Statistics.ofReport cut = .error (.malformed .noStatistics) ∧
      ∀ line ∈ Text.lines cut, Text.trim line ≠ instructionHeader) ∨
    (∃ expected, Statistics.ofReport cut = .error (.truncated expected)) ∨
    ∃ t : Statistics, Statistics.ofReport cut = .ok t ∧
      ∃ calls, s.entries = t.entries ++ calls ∧ OnlyCalls calls := by
  obtain ⟨rest, divided⟩ := shorter
  rw [ofReport_eq_finish_scan, ← divided, numbered_append, Stage.scan_append] at read
  rw [ofReport_eq_finish_scan]
  generalize reached : Stage.scan .preamble (numbered 1 (Text.lines cut)) = stage at read ⊢
  rcases stage.finish_cases with ⟨above, ends⟩ | truncated | ⟨facts, here, ends⟩ | ⟨error, failed, -⟩
  · refine Or.inl ⟨ends, fun line member => ?_⟩
    rw [above] at reached
    rw [← map_text_numbered 1 (Text.lines cut)] at member
    obtain ⟨numberedLine, numberedMember, rfl⟩ := List.mem_map.mp member
    exact (Stage.scan_eq_preamble reached).2 numberedLine numberedMember
  · exact Or.inr (Or.inl truncated)
  · refine Or.inr (Or.inr ⟨⟨facts⟩, ends, ?_⟩)
    have continues : stage.Continues facts := Or.inr ⟨[], by rw [here, List.append_nil], onlyCalls_nil⟩
    exact (Stage.continues_scan continues _).entries_of_finish read
  · rw [failed, Stage.scan_failed] at read
    cases read

/-- A report with the profile of one function. -/
def oneProfile : String :=
  "Instruction Statistics:\n\nadd: 1 0 0 2\nall:\nCycles: 7\nProfiling information:\n\n\n\n<f>\n\n3\n"

/-- Cut off between two profiles, a report loses the second one and nothing else. -/
theorem ofReport_of_prefix_one_profile :
    Statistics.ofReport (oneProfile ++ "<g>\n\n4\n") =
      .ok ⟨[.fetch "add:" 3, .cycles "Cycles:" "7", .calls "f" "3", .calls "g" "4"]⟩ ∧
    Text.lines oneProfile <+: Text.lines (oneProfile ++ "<g>\n\n4\n") ∧
    ∃ t : Statistics, Statistics.ofReport oneProfile = .ok t ∧
      ∃ calls, [.fetch "add:" 3, .cycles "Cycles:" "7", .calls "f" "3", .calls "g" "4"] =
        t.entries ++ calls ∧ OnlyCalls calls := by
  have read : Statistics.ofReport (oneProfile ++ "<g>\n\n4\n") =
      .ok ⟨[.fetch "add:" 3, .cycles "Cycles:" "7", .calls "f" "3", .calls "g" "4"]⟩ := by rfl
  have readCut : Statistics.ofReport oneProfile =
      .ok ⟨[.fetch "add:" 3, .cycles "Cycles:" "7", .calls "f" "3"]⟩ := by rfl
  have shorter : Text.lines oneProfile <+: Text.lines (oneProfile ++ "<g>\n\n4\n") :=
    ⟨["<g>", "", "4"], by rfl⟩
  refine ⟨read, shorter, ?_⟩
  rcases ofReport_of_prefix read shorter with ⟨failed, -⟩ | ⟨_, failed⟩ | kept
  · rw [readCut] at failed
    cases failed
  · rw [readCut] at failed
    cases failed
  · exact kept

end SinglePath.Report
