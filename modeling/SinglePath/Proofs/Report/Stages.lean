/-
**A report read line by line.**

* `Stage` — how far a report has been read, with the facts found so far; `Stage.step` reads one more
  line, `Stage.scan` reads lines one after another, and `Stage.finish` says what a report gives that ends
  at this stage;
* `finish_scan_rows`, `finish_scan_cycles`, … — scanning from a stage on does what the reader of that
  section does, and goes on with the stage behind it;
* `ofReport_eq_finish_scan` — so the statistics of a report are those of the stage that its lines lead to;
* `Stage.step_eq_failed` — what can go wrong with a single line: the option summary in place of the
  instruction table, or a row whose own fields are at fault.
-/

import SinglePath.Proofs.Report.Reading

namespace SinglePath.Report

open Text.Decimal (Numeral readNat?_eq_some_iff)

/-- How far a report has been read. -/
inductive Stage where
  /-- Above the instruction table. -/
  | preamble
  /-- At the column titles of the instruction table. -/
  | columns
  /-- At the rows of the instruction table. -/
  | rows (facts : List Statistic)
  /-- Below the instruction table. -/
  | cycles (facts : List Statistic)
  /-- Below the cycle count. -/
  | profiling (facts : List Statistic)
  /-- At the titles of the profiling table, with this many more behind the next one. -/
  | titles (more : Nat) (facts : List Statistic)
  /-- Where a profile may begin. -/
  | opening (facts : List Statistic)
  /-- At the second line of a profile. -/
  | figures (function : String) (facts : List Statistic)
  /-- At the third line of a profile. -/
  | invocations (function : String) (facts : List Statistic)
  /-- Below the profiling table. -/
  | remainder (facts : List Statistic)
  /-- Behind a line that cannot be read. -/
  | failed (error : ReportError)

namespace Stage

/-- The stage behind a line that was read, if it could be. -/
def behind {α : Type} (next : α → Stage) : Except ReportError α → Stage
  | .ok value => next value
  | .error error => failed error

/-- Reads one more line. -/
def step : Stage → Line → Stage
  | preamble, line =>
    if line.trimmed = instructionHeader then columns
    else if line.trimmed = optionsHeader then failed (.malformed .optionSummary)
    else preamble
  | columns, _ => rows []
  | rows facts, line =>
    if line.marks totalsMarker then cycles facts
    else behind (fun row => rows (facts ++ [row])) line.fetchRow
  | cycles facts, line =>
    if line.marks cyclesMarker then behind (fun row => profiling (facts ++ [row])) line.cycleRow
    else cycles facts
  | profiling facts, line => if line.marks profilingMarker then titles 2 facts else profiling facts
  | titles 0 facts, _ => opening facts
  | titles (more + 1) facts, _ => titles more facts
  | opening facts, line =>
    match line.functionName? with
    | none => remainder facts
    | some function => figures function facts
  | figures function facts, _ => invocations function facts
  | invocations function facts, line =>
    behind (fun count => opening (facts ++ [.calls function count])) (line.field 0)
  | remainder facts, _ => remainder facts
  | failed error, _ => failed error

/-- Reads lines one after another. -/
def scan (stage : Stage) (lines : List Line) : Stage :=
  lines.foldl step stage

/-- What a report gives that ends here. -/
def finish : Stage → Except ReportError Statistics
  | preamble => .error (.malformed .noStatistics)
  | columns | rows _ => .error (.truncated .totalsRow)
  | cycles _ => .error (.truncated .cycleCount)
  | profiling _ => .error (.truncated .profilingSection)
  | titles _ _ => .error (.truncated .profilingHeader)
  | opening facts | remainder facts => .ok ⟨facts⟩
  | figures _ _ => .error (.truncated .profileRow)
  | invocations _ _ => .error (.truncated .invocationCount)
  | failed error => .error error

/-- The facts of a stage in the profiling table or behind it. -/
def profiled? : Stage → Option (List Statistic)
  | opening facts | figures _ facts | invocations _ facts | remainder facts => some facts
  | _ => none

/-- How a report ends: above its instruction table, too early, with facts, or at a line that failed. -/
theorem finish_cases (stage : Stage) :
    (stage = preamble ∧ stage.finish = .error (.malformed .noStatistics)) ∨
      (∃ expected, stage.finish = .error (.truncated expected)) ∨
      (∃ facts, stage.profiled? = some facts ∧ stage.finish = .ok ⟨facts⟩) ∨
      ∃ error, stage = failed error ∧ stage.finish = .error error := by
  cases stage with
  | preamble => exact Or.inl ⟨rfl, rfl⟩
  | columns | rows | cycles | profiling | titles | figures | invocations =>
      exact Or.inr (Or.inl ⟨_, rfl⟩)
  | opening facts | remainder facts => exact Or.inr (Or.inr (Or.inl ⟨facts, rfl, rfl⟩))
  | failed error => exact Or.inr (Or.inr (Or.inr ⟨error, rfl, rfl⟩))

@[simp] theorem scan_nil (stage : Stage) : scan stage [] = stage := rfl

@[simp] theorem scan_cons (stage : Stage) (line : Line) (lines : List Line) :
    scan stage (line :: lines) = scan (step stage line) lines := rfl

theorem scan_append (stage : Stage) (first second : List Line) :
    scan stage (first ++ second) = scan (scan stage first) second :=
  List.foldl_append

@[simp] theorem scan_failed (error : ReportError) (lines : List Line) :
    scan (failed error) lines = failed error := by
  induction lines with
  | nil => rfl
  | cons line lines ih => exact ih

@[simp] theorem scan_remainder (facts : List Statistic) (lines : List Line) :
    scan (remainder facts) lines = remainder facts := by
  induction lines with
  | nil => rfl
  | cons line lines ih => exact ih

/-- Behind a line that fails, the scan ends with its failure. -/
theorem finish_scan_behind {α : Type} (next : α → Stage) (result : Except ReportError α)
    (lines : List Line) :
    (scan (behind next result) lines).finish = result >>= fun value => (scan (next value) lines).finish := by
  cases result with
  | ok value => rfl
  | error error =>
      show (scan (failed error) lines).finish = .error error
      rw [scan_failed, finish]

/-! ### Stages and sections -/

theorem finish_scan_preamble (lines : List Line) :
    (scan preamble lines).finish = afterHeader lines >>= fun table => (scan columns table).finish := by
  induction lines with
  | nil => rfl
  | cons line lines ih =>
      rw [scan_cons, step, afterHeader]
      by_cases header : line.trimmed = instructionHeader
      · rw [if_pos header, if_pos header]
        rfl
      · rw [if_neg header, if_neg header]
        by_cases options : line.trimmed = optionsHeader
        · rw [if_pos options, if_pos options, scan_failed]
          rfl
        · rw [if_neg options, if_neg options]
          exact ih

theorem finish_scan_columns (lines : List Line) :
    (scan columns lines).finish = (scan (rows []) (lines.drop 1)).finish := by
  cases lines with
  | nil => rfl
  | cons line lines => rfl

theorem finish_scan_rows (facts : List Statistic) (lines : List Line) :
    (scan (rows facts) lines).finish =
      fetchRows lines >>= fun table => (scan (cycles (facts ++ table.1)) table.2).finish := by
  induction lines generalizing facts with
  | nil => rfl
  | cons line lines ih =>
      rw [scan_cons, step, fetchRows]
      by_cases totals : line.marks totalsMarker = true
      · rw [if_pos totals, if_pos totals]
        show _ = (scan (cycles (facts ++ [])) lines).finish
        rw [List.append_nil]
      · rw [if_neg totals, if_neg totals, finish_scan_behind]
        simp only [ih, bind_assoc]
        refine congrArg (line.fetchRow >>= ·) (funext fun row => ?_)
        refine congrArg (fetchRows lines >>= ·) (funext fun table => ?_)
        show (scan (cycles (facts ++ [row] ++ table.1)) table.2).finish =
          (scan (cycles (facts ++ row :: table.1)) table.2).finish
        rw [List.append_assoc, List.singleton_append]

theorem finish_scan_cycles (facts : List Statistic) (lines : List Line) :
    (scan (cycles facts) lines).finish = seek cyclesMarker .cycleCount lines >>= fun found =>
      found.1.cycleRow >>= fun row => (scan (profiling (facts ++ [row])) found.2).finish := by
  induction lines with
  | nil => rfl
  | cons line lines ih =>
      rw [scan_cons, step, seek]
      by_cases marks : line.marks cyclesMarker = true
      · rw [if_pos marks, if_pos marks, finish_scan_behind]
        rfl
      · rw [if_neg marks, if_neg marks]
        exact ih

theorem finish_scan_profiling (facts : List Statistic) (lines : List Line) :
    (scan (profiling facts) lines).finish =
      seek profilingMarker .profilingSection lines >>= fun found =>
        (scan (titles 2 facts) found.2).finish := by
  induction lines with
  | nil => rfl
  | cons line lines ih =>
      rw [scan_cons, step, seek]
      by_cases marks : line.marks profilingMarker = true
      · rw [if_pos marks, if_pos marks]
        rfl
      · rw [if_neg marks, if_neg marks]
        exact ih

theorem finish_scan_titles (facts : List Statistic) (lines : List Line) :
    (scan (titles 2 facts) lines).finish =
      afterProfilingHeader lines >>= fun profiles => (scan (opening facts) profiles).finish := by
  match lines with
  | [] => rfl
  | [_] => rfl
  | [_, _] => rfl
  | _ :: _ :: _ :: _ => rfl

theorem finish_scan_opening (facts : List Statistic) (lines : List Line) :
    (scan (opening facts) lines).finish =
      callRows lines >>= fun calls => .ok ⟨facts ++ calls⟩ := by
  induction lines using callRows.induct generalizing facts with
  | case1 =>
      show _ = Except.ok (Statistics.mk (facts ++ []))
      rw [List.append_nil]
      rfl
  | case2 line rest named =>
      rw [scan_cons, step, named]
      unfold callRows
      simp only [named]
      show (scan (remainder facts) rest).finish = Except.ok (Statistics.mk (facts ++ []))
      rw [scan_remainder, finish, List.append_nil]
  | case3 line function named =>
      rw [scan_cons, step, named]
      unfold callRows
      simp only [named]
      rfl
  | case4 line function named second =>
      rw [scan_cons, step, named]
      unfold callRows
      simp only [named]
      rfl
  | case5 line function named second countLine after ih =>
      rw [scan_cons, step, named]
      unfold callRows
      simp only [named, bind_assoc]
      show (scan (behind _ (countLine.field 0)) after).finish = _
      rw [finish_scan_behind]
      simp only [ih]
      refine congrArg (countLine.field 0 >>= ·) (funext fun count => ?_)
      refine congrArg (callRows after >>= ·) (funext fun calls => ?_)
      show Except.ok (Statistics.mk (facts ++ [.calls function count] ++ calls)) =
        Except.ok (Statistics.mk (facts ++ .calls function count :: calls))
      rw [List.append_assoc, List.singleton_append]

/-- **Reading a report is scanning its lines.** -/
theorem read_eq_finish_scan (lines : List Line) : read lines = (scan preamble lines).finish := by
  rw [finish_scan_preamble, read]
  refine congrArg (afterHeader lines >>= ·) (funext fun table => ?_)
  rw [finish_scan_columns, finish_scan_rows]
  refine congrArg (fetchRows (table.drop 1) >>= ·) (funext fun read => ?_)
  obtain ⟨fetches, afterTable⟩ := read
  show _ = (scan (cycles fetches) afterTable).finish
  rw [finish_scan_cycles]
  refine congrArg (seek _ _ afterTable >>= ·) (funext fun found => ?_)
  obtain ⟨cycleLine, afterCycles⟩ := found
  refine congrArg (cycleLine.cycleRow >>= ·) (funext fun row => ?_)
  rw [finish_scan_profiling]
  refine congrArg (seek _ _ afterCycles >>= ·) (funext fun found => ?_)
  rw [finish_scan_titles]
  refine congrArg (afterProfilingHeader found.2 >>= ·) (funext fun profiles => ?_)
  rw [finish_scan_opening]
  simp only [List.append_assoc, List.singleton_append]

end Stage

/-- The statistics of a report are those of the stage that its lines lead to. -/
theorem ofReport_eq_finish_scan (raw : String) :
    Statistics.ofReport raw = (Stage.scan .preamble (numbered 1 (Text.lines raw))).finish :=
  Stage.read_eq_finish_scan _

/-! ### What can go wrong with a line -/

/-- A count of 64 bits. -/
def IsCount (text : String) (value : Nat) : Prop :=
  Numeral text value ∧ value < UInt64.size

/-- Why a line cannot be read: a field is missing, a fetch count is none, or the two fetch counts are too
large together. -/
inductive Fault (line : Line) : ReportError → Prop where
  | short {index : Nat} (few : (Text.fields line.text).length ≤ index) :
      Fault line (.missingField line.number index)
  | noCount {index : Nat} {text : String} (column : index = 1 ∨ index = 4)
      (found : (Text.fields line.text)[index]? = some text) (none : ∀ value, ¬ IsCount text value) :
      Fault line (.invalidCount line.number text)
  | tooLarge {first second : String} {a b : Nat} (atFirst : (Text.fields line.text)[1]? = some first)
      (atSecond : (Text.fields line.text)[4]? = some second) (isFirst : IsCount first a)
      (isSecond : IsCount second b) (large : UInt64.size ≤ a + b) :
      Fault line (.invalidCount line.number (Text.trim line.text))

namespace Line

variable {line : Line} {error : ReportError}

theorem fault_of_field {index : Nat} (failed : line.field index = .error error) : Fault line error := by
  unfold field at failed
  split at failed
  · cases failed
  · rename_i none
    cases failed
    exact .short (List.getElem?_eq_none_iff.mp none)

theorem fault_of_count {index : Nat} (column : index = 1 ∨ index = 4)
    (failed : line.count index = .error error) : Fault line error := by
  unfold count at failed
  rcases bind_eq_error_iff.mp failed with missing | ⟨text, found, failed⟩
  · exact fault_of_field missing
  · split at failed
    · cases failed
    · rename_i none
      cases failed
      refine .noCount column (field_eq_ok_iff.mp found) fun value isCount => ?_
      have read : Text.Decimal.readNat? countBound text = some value :=
        readNat?_eq_some_iff.mpr isCount
      rw [read] at none
      cases none

/-- A row of the instruction table that cannot be read is at fault itself. -/
theorem fault_of_fetchRow (failed : line.fetchRow = .error error) : Fault line error := by
  unfold fetchRow at failed
  rcases bind_eq_error_iff.mp failed with missing | ⟨instruction, _, failed⟩
  · exact fault_of_field missing
  rcases bind_eq_error_iff.mp failed with noFirst | ⟨a, first, failed⟩
  · exact fault_of_count (Or.inl rfl) noFirst
  rcases bind_eq_error_iff.mp failed with noSecond | ⟨b, second, failed⟩
  · exact fault_of_count (Or.inr rfl) noSecond
  split at failed
  · cases failed
  · rename_i large
    cases failed
    obtain ⟨_, atFirst, isFirst⟩ := count_eq_ok_iff.mp first
    obtain ⟨_, atSecond, isSecond⟩ := count_eq_ok_iff.mp second
    exact .tooLarge atFirst atSecond isFirst isSecond (Nat.le_of_not_lt large)

theorem fault_of_cycleRow (failed : line.cycleRow = .error error) : Fault line error := by
  unfold cycleRow at failed
  rcases bind_eq_error_iff.mp failed with missing | ⟨label, _, failed⟩
  · exact fault_of_field missing
  rcases bind_eq_error_iff.mp failed with missing | ⟨count, _, failed⟩
  · exact fault_of_field missing
  · cases failed

end Line

namespace Stage

theorem behind_eq_failed {α : Type} {next : α → Stage} {result : Except ReportError α}
    {error : ReportError} (goesOn : ∀ value, next value ≠ failed error)
    (gave : behind next result = failed error) : result = .error error := by
  cases result with
  | ok value => exact absurd gave (goesOn value)
  | error other =>
      injection gave with same
      rw [same]

theorem behind_ne_preamble {α : Type} {next : α → Stage} (goesOn : ∀ value, next value ≠ preamble)
    (result : Except ReportError α) : behind next result ≠ preamble := by
  cases result with
  | ok value => exact goesOn value
  | error error => exact Stage.noConfusion

/-- **How a line fails.** A failure stays; the option summary may stand in place of the instruction table;
or the line itself is at fault, and the report would have been too short without it. -/
theorem step_eq_failed {stage : Stage} {line : Line} {error : ReportError}
    (gave : step stage line = failed error) :
    stage = failed error ∨
      (stage = preamble ∧ line.trimmed = optionsHeader ∧ error = .malformed .optionSummary) ∨
      (Fault line error ∧ ∃ expected, stage.finish = .error (.truncated expected)) := by
  cases stage with
  | preamble =>
      rw [step] at gave
      split at gave
      · cases gave
      · split at gave
        · rename_i options
          cases gave
          exact Or.inr (Or.inl ⟨rfl, options, rfl⟩)
        · cases gave
  | columns => cases gave
  | rows facts =>
      rw [step] at gave
      split at gave
      · cases gave
      · have failed := behind_eq_failed (fun _ => Stage.noConfusion) gave
        exact Or.inr (Or.inr ⟨Line.fault_of_fetchRow failed, _, rfl⟩)
  | cycles facts =>
      rw [step] at gave
      split at gave
      · have failed := behind_eq_failed (fun _ => Stage.noConfusion) gave
        exact Or.inr (Or.inr ⟨Line.fault_of_cycleRow failed, _, rfl⟩)
      · cases gave
  | profiling facts =>
      rw [step] at gave
      split at gave <;> cases gave
  | titles more facts => cases more <;> cases gave
  | opening facts =>
      rw [step] at gave
      split at gave <;> cases gave
  | figures function facts => cases gave
  | invocations function facts =>
      have failed := behind_eq_failed (fun _ => Stage.noConfusion) gave
      exact Or.inr (Or.inr ⟨Line.fault_of_field failed, _, rfl⟩)
  | remainder facts => cases gave
  | failed other =>
      injection gave with same
      exact Or.inl (by rw [same])

/-- A scan is above the instruction table only as long as no line is its header. -/
theorem step_eq_preamble {stage : Stage} {line : Line} (gave : step stage line = preamble) :
    stage = preamble ∧ line.trimmed ≠ instructionHeader := by
  cases stage with
  | preamble =>
      rw [step] at gave
      split at gave
      · cases gave
      · rename_i noHeader
        exact ⟨rfl, noHeader⟩
  | columns => cases gave
  | rows facts =>
      rw [step] at gave
      split at gave
      · cases gave
      · exact absurd gave (behind_ne_preamble (fun _ => Stage.noConfusion) _)
  | cycles facts =>
      rw [step] at gave
      split at gave
      · exact absurd gave (behind_ne_preamble (fun _ => Stage.noConfusion) _)
      · cases gave
  | profiling facts =>
      rw [step] at gave
      split at gave <;> cases gave
  | titles more facts => cases more <;> cases gave
  | opening facts =>
      rw [step] at gave
      split at gave <;> cases gave
  | figures function facts => cases gave
  | invocations function facts =>
      exact absurd gave (behind_ne_preamble (fun _ => Stage.noConfusion) _)
  | remainder facts => cases gave
  | failed error => cases gave

end Stage

/-! ### Numbered lines -/

theorem numbered_append (first : Nat) (texts more : List String) :
    numbered first (texts ++ more) = numbered first texts ++ numbered (first + texts.length) more := by
  induction texts generalizing first with
  | nil => rfl
  | cons text texts ih =>
      rw [List.cons_append, numbered, ih, numbered, List.cons_append, List.length_cons,
        show first + 1 + texts.length = first + (texts.length + 1) by omega]

end SinglePath.Report
