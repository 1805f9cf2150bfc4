/-
**The line that a failing report is blamed on.**

* `ReportError.line?` — the line that an error names;
* `malformed_iff` — a text is no report exactly when no instruction table begins above the option summary;
* `exists_failing_line` — a scan that fails does so at a first line, and the lines before it do not fail;
* `ofReport_blames` — an error names the first line that is at fault: the lines behind it do not matter,
  the lines before it are the start of a report, and the line has the fault that the error tells.
-/

import SinglePath.Proofs.Report.Stages

namespace SinglePath

/-- The line that an error names. -/
def ReportError.line? : ReportError → Option Nat
  | .invalidCount line _ | .missingField line _ => some line
  | .malformed _ | .truncated _ => none

namespace Report

theorem Fault.line?_eq {line : Line} {error : ReportError} (fault : Fault line error) :
    error.line? = some line.number := by
  cases fault with
  | short => rfl
  | noCount => rfl
  | tooLarge => rfl

/-! ### Texts that are no reports -/

namespace Stage

/-- The instruction table has been found. -/
structure Begun (stage : Stage) : Prop where
  below : stage ≠ preamble
  isReport : ∀ found, stage ≠ failed (.malformed found)

theorem begun_step {stage : Stage} (begun : Begun stage) (line : Line) : Begun (step stage line) where
  below above := begun.below (step_eq_preamble above).1
  isReport found noReport := by
    rcases step_eq_failed noReport with same | ⟨above, -, -⟩ | ⟨fault, -⟩
    · exact begun.isReport found same
    · exact begun.below above
    · cases fault

theorem begun_scan {stage : Stage} (begun : Begun stage) (lines : List Line) :
    Begun (scan stage lines) := by
  induction lines generalizing stage with
  | nil => exact begun
  | cons line lines ih => exact ih (begun_step begun line)

theorem Begun.finish_ne_malformed {stage : Stage} (begun : Begun stage) (found : NotAReport) :
    stage.finish ≠ .error (.malformed found) := by
  intro ends
  rcases stage.finish_cases with ⟨above, -⟩ | ⟨_, other⟩ | ⟨_, -, other⟩ | ⟨error, failed, other⟩
  · exact begun.below above
  · cases ends.symm.trans other
  · cases ends.symm.trans other
  · injection ends.symm.trans other with same
    exact begun.isReport found (by rw [failed, same])

end Stage

/-- **A text is no report** exactly when no instruction table begins above the first option summary. -/
theorem malformed_iff (first : Nat) (texts : List String) :
    (∃ found, (Stage.scan .preamble (numbered first texts)).finish = .error (.malformed found)) ↔
      ∀ line ∈ texts.takeWhile (fun line => Text.trim line ≠ optionsHeader),
        Text.trim line ≠ instructionHeader := by
  induction texts generalizing first with
  | nil => exact ⟨fun _ _ member => absurd member List.not_mem_nil, fun _ => ⟨_, rfl⟩⟩
  | cons text texts ih =>
      rw [numbered, Stage.scan_cons, Stage.step, Line.trimmed]
      by_cases header : Text.trim text = instructionHeader
      · have noOptions : Text.trim text ≠ optionsHeader := by
          rw [header]
          decide
        have begun : Stage.Begun .columns := ⟨Stage.noConfusion, fun _ => Stage.noConfusion⟩
        rw [if_pos header, List.takeWhile_cons_of_pos (by simpa using noOptions)]
        constructor
        · rintro ⟨found, ends⟩
          exact absurd ends ((Stage.begun_scan begun _).finish_ne_malformed found)
        · intro none
          exact absurd header (none text List.mem_cons_self)
      · rw [if_neg header]
        by_cases options : Text.trim text = optionsHeader
        · rw [if_pos options, Stage.scan_failed, List.takeWhile_cons_of_neg (by simpa using options)]
          exact ⟨fun _ _ member => absurd member List.not_mem_nil, fun _ => ⟨_, rfl⟩⟩
        · rw [if_neg options, List.takeWhile_cons_of_pos (by simpa using options), ih,
            List.forall_mem_cons]
          exact ⟨fun later => ⟨header, later⟩, fun all => all.2⟩

/-! ### The first line that fails -/

/-- **A scan fails at a first line.** -/
theorem exists_failing_line {first : Nat} {texts : List String} {stage : Stage} {error : ReportError}
    (alive : ∀ other, stage ≠ .failed other)
    (fails : stage.scan (numbered first texts) = .failed error) :
    ∃ before text after, texts = before ++ text :: after ∧
      (∀ other, stage.scan (numbered first before) ≠ .failed other) ∧
      (stage.scan (numbered first before)).step ⟨first + before.length, text⟩ = .failed error := by
  induction texts generalizing first stage with
  | nil => exact absurd fails (alive error)
  | cons text texts ih =>
      rw [numbered, Stage.scan_cons] at fails
      by_cases now : ∃ other, stage.step ⟨first, text⟩ = .failed other
      · obtain ⟨other, now⟩ := now
        rw [now, Stage.scan_failed] at fails
        exact ⟨[], text, texts, rfl, alive, now.trans fails⟩
      · have stillAlive : ∀ other, stage.step ⟨first, text⟩ ≠ .failed other := fun other failed =>
          now ⟨other, failed⟩
        obtain ⟨before, bad, after, divided, aliveBefore, failsThere⟩ := ih stillAlive fails
        refine ⟨text :: before, bad, after, by rw [divided, List.cons_append], aliveBefore, ?_⟩
        rw [List.length_cons, show first + (before.length + 1) = first + 1 + before.length by omega]
        exact failsThere

/-- An error that names a line comes from a scan that failed. -/
theorem Stage.eq_failed_of_finish {stage : Stage} {error : ReportError} {n : Nat}
    (ends : stage.finish = .error error) (names : error.line? = some n) : stage = .failed error := by
  rcases stage.finish_cases with ⟨-, other⟩ | ⟨_, other⟩ | ⟨_, -, other⟩ | ⟨reported, failed, other⟩
  · cases ends.symm.trans other
    cases names
  · cases ends.symm.trans other
    cases names
  · cases ends.symm.trans other
  · injection ends.symm.trans other with same
    rw [failed, same]

/-- The line that an error names, with the lines before and behind it: it is at fault, the lines up to it
fail, and the lines before it are too few. -/
theorem exists_blamed_line {raw : String} {error : ReportError} {n : Nat}
    (fails : Statistics.ofReport raw = .error error) (names : error.line? = some n) :
    ∃ before text after, Text.lines raw = before ++ text :: after ∧ n = before.length + 1 ∧
      Fault ⟨n, text⟩ error ∧
      Stage.scan .preamble (numbered 1 (before ++ [text])) = .failed error ∧
      ∃ expected,
        (Stage.scan .preamble (numbered 1 before)).finish = .error (.truncated expected) := by
  rw [ofReport_eq_finish_scan] at fails
  obtain ⟨before, text, after, divided, alive, failsThere⟩ :=
    exists_failing_line (fun _ => Stage.noConfusion) (Stage.eq_failed_of_finish fails names)
  have upTo : Stage.scan .preamble (numbered 1 (before ++ [text])) = .failed error := by
    rw [numbered_append, Stage.scan_append]
    exact failsThere
  rcases Stage.step_eq_failed failsThere with failed | ⟨-, -, malformed⟩ | ⟨fault, tooShort⟩
  · exact absurd failed (alive error)
  · rw [malformed] at names
    cases names
  · have number : n = 1 + before.length := Option.some.inj (names.symm.trans fault.line?_eq)
    refine ⟨before, text, after, divided, by omega, ?_, upTo, tooShort⟩
    rw [number]
    exact fault

/-- **Errors name the first line at fault.** A text is no report exactly when no instruction table begins
above the first option summary. An error that names a line is the same for every text with the same
lines up to there, the lines before it are too few for a report, and the line itself has the fault. -/
theorem ofReport_blames (raw : String) :
    ((∃ found, Statistics.ofReport raw = .error (.malformed found)) ↔
      ∀ line ∈ (Text.lines raw).takeWhile (fun line => Text.trim line ≠ optionsHeader),
        Text.trim line ≠ instructionHeader) ∧
    ∀ (error : ReportError) (n : Nat), Statistics.ofReport raw = .error error → error.line? = some n →
      1 ≤ n ∧ n ≤ (Text.lines raw).length ∧
      (∀ other : String, (Text.lines other).take n = (Text.lines raw).take n →
        Statistics.ofReport other = .error error) ∧
      (∀ other : String, Text.lines other = (Text.lines raw).take (n - 1) →
        ∃ expected, Statistics.ofReport other = .error (.truncated expected)) ∧
      ∃ text, (Text.lines raw)[n - 1]? = some text ∧ Fault ⟨n, text⟩ error := by
  constructor
  · rw [ofReport_eq_finish_scan]
    exact malformed_iff 1 (Text.lines raw)
  · intro error n fails names
    obtain ⟨before, text, after, divided, number, fault, upTo, tooShort⟩ :=
      exists_blamed_line fails names
    have firstLines : (Text.lines raw).take n = before ++ [text] := by
      rw [divided, number, List.take_append, List.take_of_length_le (by omega),
        Nat.add_sub_cancel_left, List.take_succ_cons, List.take_zero]
    have linesBefore : (Text.lines raw).take (n - 1) = before := by
      rw [divided, number, Nat.add_sub_cancel, List.take_left]
    refine ⟨by omega, ?_, fun other same => ?_, fun other same => ?_, text, ?_, fault⟩
    · rw [divided, List.length_append, List.length_cons]
      omega
    · rw [ofReport_eq_finish_scan, ← List.take_append_drop n (Text.lines other), same, firstLines,
        numbered_append, Stage.scan_append, upTo, Stage.scan_failed, Stage.finish]
    · rw [ofReport_eq_finish_scan, same, linesBefore]
      exact tooShort
    · rw [divided, number, Nat.add_sub_cancel, List.getElem?_append_right (Nat.le_refl _),
        Nat.sub_self, List.getElem?_cons_zero]

/-- A report whose fourth line has a letter in its first fetch count. -/
def letterInCount : String :=
  "Instruction Statistics:\n\nadd: 1 0 0 2\naddi: 2x0 0 0 0\nall:\n"

/-- The error names the fourth line, whatever the report goes on with. -/
theorem ofReport_blames_letter_in_count :
    Statistics.ofReport letterInCount = .error (.invalidCount 4 "2x0") ∧
      Statistics.ofReport (letterInCount ++ "Cycles: 1") = .error (.invalidCount 4 "2x0") ∧
      ∃ text, (Text.lines letterInCount)[3]? = some text ∧ Fault ⟨4, text⟩ (.invalidCount 4 "2x0") := by
  have fails : Statistics.ofReport letterInCount = .error (.invalidCount 4 "2x0") := by rfl
  obtain ⟨-, -, alike, -, blamed⟩ := (ofReport_blames letterInCount).2 _ 4 fails rfl
  exact ⟨fails, alike _ (by decide), blamed⟩

end Report

end SinglePath
