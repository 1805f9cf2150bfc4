/-
**A divergence that is reported can be seen.**

Whether two executions agree is decided by their texts, and the diff that explains a divergence is made
of the lines of these texts. For texts in general the two are not the same: a carriage return before a
newline, or the newline at the end, makes no difference to the lines. For the statistics of reports they
are:

* `text_eq_iff_lines_eq` — texts of statistics are the same when their lines are;
* `exists_reports_of_divergence` — a divergence is between the statistics of two reports with different
  texts;
* `visible_of_reports` — the diff of such statistics is not empty, holds a change, and makes the lines of
  the one text out of those of the other;
* `reported_divergence_visible` — so is the diff of every divergence that a check reports.
-/

import SinglePath.Proofs.Diff.RoundTrip
import SinglePath.Proofs.MatrixRun
import SinglePath.Proofs.Report.Canonical

namespace SinglePath

variable {σ : Type}

/-! ### Texts and lines of statistics -/

theorem text_eq_iff_lines_eq {s t : Statistics} (wellFormed : ∀ entry ∈ s.entries, entry.WellFormed)
    (wellFormed' : ∀ entry ∈ t.entries, entry.WellFormed) :
    s.text = t.text ↔ Text.lines s.text = Text.lines t.text := by
  constructor
  · intro same
    rw [same]
  · intro lines
    rw [Statistics.lines_text wellFormed, Statistics.lines_text wellFormed'] at lines
    rw [s.text_eq_join, t.text_eq_join, lines]

/-! ### The label of an argument -/

namespace ExecutionArgument

theorem toList_text (argument : ExecutionArgument) :
    argument.text.toList =
      (argument.input.toList ++ ['=']) ++ (Text.Decimal.ofInt argument.expected).toList := by
  simp [text]

theorem newline_not_mem_text {argument : ExecutionArgument} (oneLine : '\n' ∉ argument.input.toList) :
    '\n' ∉ argument.text.toList := by
  have number := (Text.isWord_ofInt argument.expected).not_mem (c := '\n') (by decide)
  rw [toList_text]
  simp [oneLine, number]

end ExecutionArgument

namespace Diff

/-- A label is a line as it stands: it ends in a number. -/
theorem lines_labels (old new : ExecutionArgument) (oldOneLine : '\n' ∉ old.input.toList)
    (newOneLine : '\n' ∉ new.input.toList) (rest : String) :
    Text.lines (labels old.text new.text ++ rest) =
      ("--- " ++ old.text) :: ("+++ " ++ new.text) :: Text.lines rest := by
  have oneLine : ∀ (marker : String) (argument : ExecutionArgument), '\n' ∉ marker.toList →
      '\n' ∉ argument.input.toList → '\n' ∉ (marker ++ argument.text).toList := by
    intro marker argument noMarker noInput
    rw [String.toList_append, List.mem_append, not_or]
    exact ⟨noMarker, argument.newline_not_mem_text noInput⟩
  have kept : ∀ (marker : String) (argument : ExecutionArgument),
      (marker ++ argument.text).toList.getLast? ≠ some '\r' := by
    intro marker argument
    rw [String.toList_append, argument.toList_text, ← List.append_assoc]
    exact (Text.isWord_ofInt argument.expected).getLast?_append_ne (by decide) _
  have divided : labels old.text new.text ++ rest =
      ("--- " ++ old.text) ++ "\n" ++ (("+++ " ++ new.text) ++ "\n" ++ rest) := by
    apply String.toList_inj.mp
    simp [labels]
  rw [divided, Text.lines_append_newline (oneLine _ old (by decide) oldOneLine) (kept _ old),
    Text.lines_append_newline (oneLine _ new (by decide) newOneLine) (kept _ new)]

end Diff

/-! ### What the diff of a divergence shows -/

/-- A divergence whose diff shows it: labels and hunks, with a change in one of them, which make the
lines of the text that differs out of those of the text compared with. -/
structure Divergence.Visible (found : Divergence) : Prop where
  nonempty : found.diff ≠ ""
  hunks : ∃ hunks : List Diff.Hunk,
    found.diff = Diff.labels found.reference.text found.candidate.text ++
      String.join (hunks.map Diff.Hunk.render) ∧
    (∃ h ∈ hunks, ∃ edit ∈ h.edits, edit.isChange = true) ∧
    Diff.Patch.apply ⟨found.reference.text, found.candidate.text, hunks.map Diff.Section.ofHunk⟩
      (Text.lines found.referenceStatistics.text) =
        some (Text.lines found.candidateStatistics.text)
  /-- Unless an input holds a newline, all this can be read off the text of the diff. -/
  readable : '\n' ∉ found.reference.input.toList → '\n' ∉ found.candidate.input.toList →
    (Text.lines found.diff).take 2 =
      ["--- " ++ found.reference.text, "+++ " ++ found.candidate.text] ∧
    ∃ patch, Diff.Patch.read? found.diff = some patch ∧
      patch.oldLabel = found.reference.text ∧ patch.newLabel = found.candidate.text ∧
      (∃ part ∈ patch.sections, ∃ edit ∈ part.edits, edit.isChange = true) ∧
      patch.apply (Text.lines found.referenceStatistics.text) =
        some (Text.lines found.candidateStatistics.text)

theorem Divergence.diff_between (program : String) (first candidate : ExecutionArgument)
    (s t : Statistics) :
    (Divergence.between program first candidate s t).diff =
      Diff.unified s.text t.text first.text candidate.text := by
  simp only [Divergence.between]

/-- **Statistics with different texts have a diff that shows it.** -/
theorem visible_of_reports {found : Divergence} {raw raw' : String}
    (read : Statistics.ofReport raw = .ok found.referenceStatistics)
    (read' : Statistics.ofReport raw' = .ok found.candidateStatistics)
    (differs : found.candidateStatistics.text ≠ found.referenceStatistics.text)
    (explained : found.diff = Diff.unified found.referenceStatistics.text
      found.candidateStatistics.text found.reference.text found.candidate.text) :
    found.Visible := by
  obtain ⟨wellFormed, -⟩ := Statistics.normal_of_ofReport read
  obtain ⟨wellFormed', -⟩ := Statistics.normal_of_ofReport read'
  have lines : Text.lines found.referenceStatistics.text ≠ Text.lines found.candidateStatistics.text :=
    fun same => differs ((text_eq_iff_lines_eq wellFormed wellFormed').mpr same).symm
  have changed : ¬ Diff.Unchanged (Diff.script (Text.lines found.referenceStatistics.text)
      (Text.lines found.candidateStatistics.text)) :=
    fun unchanged => lines ((Diff.script_unchanged_iff _ _).mp unchanged)
  obtain ⟨h, shown, edit, listed, isChange⟩ := Diff.exists_change_of_not_unchanged changed
  have rendered := explained.trans (Diff.unified_of_ne lines _ _)
  have applied := Diff.apply_hunks found.reference.text found.candidate.text
    (Diff.script (Text.lines found.referenceStatistics.text)
      (Text.lines found.candidateStatistics.text))
  rw [Diff.oldLines_script, Diff.newLines_script] at applied
  refine ⟨?_, ⟨_, rendered, ⟨h, shown, edit, listed, isChange⟩, applied⟩, ?_⟩
  · rw [rendered]
    exact Diff.labels_append_ne_empty _ _ _
  · intro oneLine oneLine'
    have isRead := Diff.read?_unified lines (ExecutionArgument.newline_not_mem_text oneLine)
      (ExecutionArgument.newline_not_mem_text oneLine')
    rw [← explained] at isRead
    refine ⟨?_, _, isRead, ?_⟩
    · rw [rendered, Diff.lines_labels _ _ oneLine oneLine']
      rfl
    · exact ⟨rfl, rfl, ⟨_, List.mem_map_of_mem shown, edit, listed, isChange⟩, applied⟩

/-! ### The divergences that checks report -/

theorem ofReport_of_statistics {run : SimulatorRun} {program : String}
    {argument : ExecutionArgument} {s : Statistics} (given : run.statistics program argument = .ok s) :
    Statistics.ofReport run.stderr = .ok s := by
  rcases statistics_cases run program argument with
    ⟨-, gave⟩ | ⟨cause, -, -, gave⟩ | ⟨statistics, -, read, gave⟩
  all_goals
    rw [gave] at given
    cases given
  exact read

/-- An execution that succeeds gives the statistics of a report. -/
theorem exists_report_of_execute {tools : Toolchain σ} {program : String}
    {argument : ExecutionArgument} {state : σ} {s : Statistics}
    (gave : (Turn.take (execute tools program) argument state).result = .ok s) :
    ∃ raw, Statistics.ofReport raw = .ok s := by
  have ran := Turn.run_of_take_ok gave
  rw [run_execute] at ran
  split at ran
  · cases ran
  split at ran
  · split at ran
    · cases ran
    · rename_i simulated _ _
      cases given : simulated.statistics program argument with
      | error failure =>
          rw [given] at ran
          cases ran
      | ok statistics =>
          rw [given] at ran
          cases ran
          exact ⟨simulated.stderr, ofReport_of_statistics given⟩
  · cases ran

/-- **A divergence is between the first execution and a later one**, each with a report, and their texts
differ. -/
theorem exists_reports_of_divergence {tools : Toolchain σ} {program : String}
    {arguments : List ExecutionArgument} {singlePath : Bool} {state after : σ} {found : Divergence}
    (diverged : (checkExecutions tools program arguments singlePath).run state =
      .error (.divergence found) after) :
    ∃ first rest candidate s t raw raw', arguments = first :: rest ∧ candidate ∈ rest ∧
      found = .between program first candidate s t ∧ Statistics.ofReport raw = .ok s ∧
      Statistics.ofReport raw' = .ok t ∧ t.text ≠ s.text := by
  cases arguments with
  | nil => cases diverged
  | cons first rest =>
      obtain ⟨k, rejected⟩ := checkExecutions_error_iff.mp ⟨_, _, diverged⟩
      obtain ⟨run, failure, atK, stopped, byFailure, byDivergence⟩ :=
        checkExecutions_of_firstRejected rejected
      rw [diverged] at stopped
      cases stopped
      -- the failure is a divergence, so the execution at which the check stopped did succeed
      obtain ⟨_, run', isFirst, atK', isRejected, _⟩ := rejected
      cases isFirst
      rw [atK] at atK'
      cases atK'
      rcases isRejected with ⟨cause, gave⟩ | ⟨-, s, t, known, gave, differs⟩
      · cases byFailure cause gave
      obtain ⟨s', known', isFound⟩ := byDivergence t gave
      rw [known] at known'
      cases known'
      cases isFound
      cases k with
      | zero =>
          -- the first execution has the text of the first execution
          cases atK
          rw [known] at gave
          cases gave
          exact absurd rfl differs
      | succ k =>
          obtain ⟨raw, read⟩ := exists_report_of_execute known
          rw [eq_take_of_mem_turns (List.mem_of_getElem? atK)] at gave
          obtain ⟨raw', read'⟩ := exists_report_of_execute gave
          exact ⟨first, rest, run.item, s, t, raw, raw', rfl,
            List.mem_of_getElem? (item_of_getElem? atK), rfl, read, read', differs⟩

/-- A tool that must report success gives no divergence of its own. -/
theorem divergence_after_require {β : Type} {tool : EStateM ToolError σ ToolRun}
    {failed : String → TestFailure} {next : Unit → EStateM TestFailure σ β} {state after : σ}
    {found : Divergence}
    (diverged : (require tool .tool failed >>= next).run state = .error (.divergence found) after)
    (other : ∀ stderr, failed stderr ≠ .divergence found) :
    ∃ built, (next ()).run built = .error (.divergence found) after := by
  rw [EStateM.run_bind, run_require] at diverged
  cases ran : tool.run state with
  | error error stopped =>
      rw [ran] at diverged
      cases diverged
  | ok ended built =>
      rw [ran] at diverged
      obtain ⟨success, stderr⟩ := ended
      cases success with
      | true => exact ⟨built, diverged⟩
      | false =>
          injection diverged with same
          exact absurd same (other stderr)

/-- A divergence of a configuration is one of its executions. -/
theorem divergence_of_checkConfiguration {tools : Toolchain σ} {program : Program}
    {arguments : List ExecutionArgument} {c : Configuration} {state after : σ} {found : Divergence}
    (diverged : (checkConfiguration tools program arguments c).run state =
      .error (.divergence found) after) :
    ∃ built, (checkExecutions tools program.compiled arguments c.singlePath).run built =
      .error (.divergence found) after := by
  unfold checkConfiguration at diverged
  obtain ⟨_, diverged⟩ := divergence_after_require diverged fun _ same => nomatch same
  obtain ⟨_, diverged⟩ := divergence_after_require diverged fun _ same => nomatch same
  exact divergence_after_require diverged fun _ same => nomatch same

/-- A divergence of a matrix run is one of a configuration. -/
theorem divergence_of_checkMatrix {tools : Toolchain σ} {program : Program}
    {arguments : List ExecutionArgument} {singlePathFlag : String} {base : List String}
    {matrix : FlagMatrix} {state : σ} {configuration : String} {found : Divergence}
    (diverged : (checkMatrix tools program arguments singlePathFlag base matrix state).verdict =
      .error ⟨configuration, .divergence found⟩) :
    ∃ singlePath built after, (checkExecutions tools program.compiled arguments singlePath).run built =
      .error (.divergence found) after := by
  obtain ⟨c, -, -, before, after, ran⟩ := exists_check_of_error diverged
  obtain ⟨built, diverged⟩ := divergence_of_checkConfiguration ran
  exact ⟨c.singlePath, built, after, diverged⟩

/-- **Every divergence that is reported can be seen.** It is between the first argument and a later one;
its diff is not empty, holds a change, and makes the lines of the text that differs out of those of the
text compared with. This is because the diff of the statistics of two reports is empty exactly when they
agree. -/
theorem reported_divergence_visible (tools : Toolchain σ) (state : σ) :
    (∀ (program : String) (arguments : List ExecutionArgument) (singlePath : Bool)
        (found : Divergence) (after : σ),
      (checkExecutions tools program arguments singlePath).run state =
        .error (.divergence found) after →
      arguments.head? = some found.reference ∧ found.candidate ∈ arguments.tail ∧ found.Visible) ∧
    (∀ (program : Program) (arguments : List ExecutionArgument) (singlePathFlag : String)
        (base : List String) (matrix : FlagMatrix) (configuration : String) (found : Divergence),
      (checkMatrix tools program arguments singlePathFlag base matrix state).verdict =
        .error ⟨configuration, .divergence found⟩ →
      arguments.head? = some found.reference ∧ found.candidate ∈ arguments.tail ∧ found.Visible) ∧
    ∀ (raw raw' : String) (s t : Statistics) (label label' : String),
      Statistics.ofReport raw = .ok s → Statistics.ofReport raw' = .ok t →
      (Diff.unified s.text t.text label label' = "" ↔ s.agrees t = true) := by
  have visible : ∀ {program : String} {arguments : List ExecutionArgument} {singlePath : Bool}
      {found : Divergence} {state after : σ},
      (checkExecutions tools program arguments singlePath).run state =
        .error (.divergence found) after →
      arguments.head? = some found.reference ∧ found.candidate ∈ arguments.tail ∧ found.Visible := by
    intro program arguments singlePath found state after diverged
    obtain ⟨first, rest, candidate, s, t, raw, raw', rfl, member, rfl, read, read', differs⟩ :=
      exists_reports_of_divergence diverged
    have explained := Divergence.diff_between program first candidate s t
    exact ⟨rfl, member, visible_of_reports read read' differs explained⟩
  refine ⟨fun program arguments singlePath found after diverged => visible diverged, ?_, ?_⟩
  · intro program arguments singlePathFlag base matrix configuration found diverged
    obtain ⟨singlePath, built, after, diverged⟩ := divergence_of_checkMatrix diverged
    exact visible diverged
  · intro raw raw' s t label label' read read'
    obtain ⟨wellFormed, -⟩ := Statistics.normal_of_ofReport read
    obtain ⟨wellFormed', -⟩ := Statistics.normal_of_ofReport read'
    rw [agrees_iff, text_eq_iff_lines_eq wellFormed wellFormed']
    constructor
    · intro empty
      by_cases same : Text.lines s.text = Text.lines t.text
      · exact same
      · rw [Diff.unified_of_ne same] at empty
        exact absurd empty (Diff.labels_append_ne_empty _ _ _)
    · intro same
      exact Diff.unified_of_same same label label'

/-- Tools whose program takes as many cycles as the input says that it was linked with last. -/
def countingTools : Toolchain String where
  compile _ _ _ := return ⟨true, ""⟩
  merge _ _ _ := return ⟨true, ""⟩
  link _ input _ := do
    set input
    return ⟨true, ""⟩
  simulate _ := do
    return ⟨some 0, "", "Instruction Statistics:\n\nall:\nCycles: " ++ (← get) ++
      "\nProfiling information:\n\n\n\n"⟩

/-- One cycle for the first argument and two for the second are reported, and seen. -/
theorem reported_divergence_visible_cycles :
    ∃ found after, (checkExecutions countingTools "p" [⟨"1", 0⟩, ⟨"2", 0⟩] true).run "" =
        .error (.divergence found) after ∧
      found.reference = ⟨"1", 0⟩ ∧ found.candidate = ⟨"2", 0⟩ ∧ found.Visible := by
  have diverged : (checkExecutions countingTools "p" [⟨"1", 0⟩, ⟨"2", 0⟩] true).run "" =
      .error (.divergence (.between "p" ⟨"1", 0⟩ ⟨"2", 0⟩ ⟨[.cycles "Cycles:" "1"]⟩
        ⟨[.cycles "Cycles:" "2"]⟩)) "2" := by
    rfl
  obtain ⟨-, -, visible⟩ := (reported_divergence_visible countingTools "").1 _ _ _ _ _ diverged
  exact ⟨_, _, diverged, rfl, rfl, visible⟩

end SinglePath
