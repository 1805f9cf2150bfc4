/-
**Padding and line endings of a report do not matter.**

A report is read line by line, and at every stage a line is looked at trimmed or in fields only. So two texts
are read alike as soon as their lines are equal without padding, whatever is found and whatever is wrong:

* `Line.Alike` — two lines with the same number that differ in padding at most;
* `Stage.step_alike`, `Stage.scan_alike` — such lines lead to the same stage, and so do lists of them;
* `map_trim_lines_withReturns`, `map_trim_lines_reindented`, `map_trim_lines_append_newline` — what other line
  endings, another indentation and a newline at the end do to the lines of a text;
* `ofReport_ignores_padding` — none of this changes what a report gives, errors included.
-/

import SinglePath.Proofs.Report.Stages
import SinglePath.Proofs.Text.Lines
import SinglePath.Proofs.Text.Words

namespace SinglePath

namespace Report

/-! ### Lines that differ in padding -/

/-- Two lines with the same number that differ in padding at most. -/
structure Line.Alike (line line' : Line) : Prop where
  number : line.number = line'.number
  trimmed : line.trimmed = line'.trimmed

namespace Line.Alike

variable {line line' : Line} (alike : Alike line line')

include alike

theorem fields : Text.fields line.text = Text.fields line'.text := by
  rw [← Text.fields_trim line.text, ← Text.fields_trim line'.text]
  exact congrArg Text.fields alike.trimmed

theorem marks (marker : String) : line.marks marker = line'.marks marker := by
  rw [Line.marks, Line.marks, alike.trimmed]

theorem field (index : Nat) : line.field index = line'.field index := by
  rw [Line.field, Line.field, alike.fields, alike.number]

theorem count (index : Nat) : line.count index = line'.count index := by
  rw [Line.count, Line.count, alike.field, alike.number]

theorem fetchRow : line.fetchRow = line'.fetchRow := by
  simp only [Line.fetchRow, alike.field, alike.count, alike.number, alike.trimmed]

theorem cycleRow : line.cycleRow = line'.cycleRow := by
  simp only [Line.cycleRow, alike.field]

theorem functionName? : line.functionName? = line'.functionName? := by
  rw [Line.functionName?, Line.functionName?, alike.trimmed]

end Line.Alike

namespace Stage

/-- **Lines that differ in padding lead to the same stage.** -/
theorem step_alike {line line' : Line} (alike : line.Alike line') (stage : Stage) :
    stage.step line = stage.step line' := by
  cases stage with
  | preamble => rw [step, step, alike.trimmed]
  | rows facts => rw [step, step, alike.marks, alike.fetchRow]
  | cycles facts => rw [step, step, alike.marks, alike.cycleRow]
  | profiling facts => rw [step, step, alike.marks]
  | titles more facts => cases more <;> rfl
  | opening facts => rw [step, step, alike.functionName?]
  | invocations function facts => rw [step, step, alike.field]
  | columns | figures | remainder | failed => rfl

/-- **Texts that differ in padding, line by line, lead to the same stage.** -/
theorem scan_alike {texts texts' : List String} (same : texts.map Text.trim = texts'.map Text.trim)
    (first : Nat) (stage : Stage) :
    stage.scan (numbered first texts) = stage.scan (numbered first texts') := by
  induction texts generalizing texts' first stage with
  | nil => rw [List.map_eq_nil_iff.mp same.symm]
  | cons text texts ih =>
      obtain ⟨text', others, rfl, trimmed, later⟩ := List.map_eq_cons_iff.mp same.symm
      have alike : Line.Alike ⟨first, text⟩ ⟨first, text'⟩ := ⟨rfl, trimmed.symm⟩
      rw [numbered, numbered, scan_cons, scan_cons, step_alike alike, ih later.symm]

end Stage

theorem ofReport_of_map_trim_eq {raw raw' : String}
    (same : (Text.lines raw).map Text.trim = (Text.lines raw').map Text.trim) :
    Statistics.ofReport raw = Statistics.ofReport raw' := by
  rw [ofReport_eq_finish_scan, ofReport_eq_finish_scan, Stage.scan_alike same]

end Report

/-! ### Other layouts of a text -/

namespace Text

namespace Chars

theorem trim_dropReturn (line : List Char) : trim (dropReturn line) = trim line := by
  unfold dropReturn
  split
  · rename_i ends
    have divided := List.dropLast_append_getLast? '\r' ends
    have blank : ∀ c ∈ ['\r'], isBlank c = true := by simp; decide
    conv => rhs; rw [← divided]
    rw [trim_append_blanks blank]
  · rfl

/-- A text with a carriage return in front of each newline. -/
def withReturns (cs : List Char) : List Char :=
  cs.flatMap fun c => if c = '\n' then ['\r', '\n'] else [c]

theorem withReturns_of_not_mem {cs : List Char} (oneLine : '\n' ∉ cs) : withReturns cs = cs := by
  induction cs with
  | nil => rfl
  | cons c cs ih =>
      rw [List.mem_cons, not_or] at oneLine
      rw [withReturns, List.flatMap_cons, if_neg (Ne.symm oneLine.1)]
      exact congrArg (c :: ·) (ih oneLine.2)

/-- **Other line endings** leave the lines of a text as they are, padding apart. -/
theorem map_trim_lines_withReturns (cs : List Char) :
    (lines (withReturns cs)).map trim = (lines cs).map trim := by
  induction cs using line_induction with
  | last cs oneLine => rw [withReturns_of_not_mem oneLine]
  | line cs rest oneLine ih =>
      have divided : withReturns (cs ++ '\n' :: rest) = (cs ++ ['\r']) ++ '\n' :: withReturns rest := by
        have start := withReturns_of_not_mem oneLine
        unfold withReturns at start ⊢
        rw [List.flatMap_append, start, List.flatMap_cons]
        simp
      -- the ending takes the new carriage return with it, and an old one stays as padding
      have oneLineStill : '\n' ∉ cs ++ ['\r'] := by simpa using oneLine
      have dropped : dropReturn (cs ++ ['\r']) = cs := by simp [dropReturn]
      rw [divided, lines_append_cons oneLineStill, lines_append_cons oneLine, List.map_cons, List.map_cons,
        ih, dropped, trim_dropReturn]

/-- **A newline at the end** of a text that ends within a line changes no line, padding apart. -/
theorem map_trim_lines_append_newline {cs : List Char} (nonempty : cs ≠ [])
    (isOpen : cs.getLast? ≠ some '\n') : (lines (cs ++ ['\n'])).map trim = (lines cs).map trim := by
  induction cs using line_induction with
  | last cs oneLine =>
      rw [lines_append_cons oneLine, lines_of_not_mem oneLine nonempty, List.map_cons, trim_dropReturn]
      rfl
  | line cs rest oneLine ih =>
      have more : rest ≠ [] := by
        rintro rfl
        exact isOpen List.getLast?_concat
      have stillOpen : rest.getLast? ≠ some '\n' := by
        rwa [List.getLast?_append_of_ne_nil _ (List.cons_ne_nil _ _),
          List.getLast?_cons_of_ne_nil more] at isOpen
      rw [List.append_assoc, List.cons_append, lines_append_cons oneLine, lines_append_cons oneLine,
        List.map_cons, List.map_cons, ih more stillOpen]

theorem trim_trimStart (cs : List Char) : trim (trimStart cs) = trim cs := by
  have padding : ∀ c ∈ cs.takeWhile isBlank, isBlank c = true := fun c => List.mem_takeWhile_imp
  have divided : cs.takeWhile isBlank ++ trimStart cs = cs := List.takeWhile_append_dropWhile
  conv => rhs; rw [← divided]
  rw [trim_blanks_append padding]

end Chars

theorem map_trim_lines (s : String) :
    (lines s).map trim = ((Chars.lines s.toList).map Chars.trim).map String.ofList := by
  simp only [lines, trim, List.map_map, Function.comp_def, String.toList_ofList]

/-- Texts that each end in a newline come back as lines, padding apart. -/
theorem map_trim_lines_terminated {texts : List String} (oneLine : ∀ text ∈ texts, '\n' ∉ text.toList) :
    (lines (String.join (texts.map (· ++ "\n")))).map trim = texts.map trim := by
  induction texts with
  | nil => rfl
  | cons text texts ih =>
      rw [List.forall_mem_cons] at oneLine
      have later := ih oneLine.2
      rw [map_trim_lines] at later ⊢
      have divided : (String.join ((text :: texts).map (· ++ "\n"))).toList =
          text.toList ++ '\n' :: (String.join (texts.map (· ++ "\n"))).toList := by
        rw [List.map_cons, String.join_cons]
        simp
      rw [divided, Chars.lines_append_cons oneLine.1, List.map_cons, List.map_cons, later,
        Chars.trim_dropReturn]
      rfl

/-- A text with a carriage return in front of each newline. -/
def withReturns (s : String) : String :=
  String.ofList (Chars.withReturns s.toList)

/-- A text whose lines begin with the given indentations in place of their own. -/
def reindented (indent : Nat → String) (s : String) : String :=
  String.join (((lines s).mapIdx fun i line =>
    indent i ++ String.ofList (Chars.trimStart line.toList)).map (· ++ "\n"))

/-- **Another indentation** leaves the lines of a text as they are, padding apart. -/
theorem map_trim_lines_reindented {indent : Nat → String}
    (blank : ∀ i, isBlankText (indent i) = true ∧ '\n' ∉ (indent i).toList) (s : String) :
    (lines (reindented indent s)).map trim = (lines s).map trim := by
  have letters : ∀ i line, (indent i ++ String.ofList (Chars.trimStart line)).toList =
      (indent i).toList ++ Chars.trimStart line := by simp
  have oneLine : ∀ text ∈ (lines s).mapIdx (fun i line =>
      indent i ++ String.ofList (Chars.trimStart line.toList)), '\n' ∉ text.toList := by
    intro text member
    obtain ⟨i, inside, rfl⟩ := List.mem_mapIdx.mp member
    rw [letters, List.mem_append, not_or]
    refine ⟨(blank i).2, fun newline => ?_⟩
    exact newline_not_mem_of_mem_lines (List.getElem_mem inside)
      ((List.dropWhile_suffix _).subset newline)
  have indentation : ∀ i line, trim (indent i ++ String.ofList (Chars.trimStart line)) =
      String.ofList (Chars.trim line) := by
    intro i line
    rw [trim, letters, Chars.trim_blanks_append (List.all_eq_true.mp (blank i).1), Chars.trim_trimStart]
  rw [reindented, map_trim_lines_terminated oneLine]
  refine List.ext_getElem? fun i => ?_
  rw [List.getElem?_map, List.getElem?_map, List.getElem?_mapIdx]
  cases (lines s)[i]? with
  | none => rfl
  | some line => exact congrArg some (indentation i line.toList)

end Text

namespace Report

/-- **Padding and line endings do not matter.** Two texts give the same, facts or error, when their lines are
the same but for blanks at both ends. So do a text and the same text with other line endings, with another
indentation, or with a newline after its last line. -/
theorem ofReport_ignores_padding :
    (∀ raw raw' : String, (Text.lines raw).map Text.trim = (Text.lines raw').map Text.trim →
      Statistics.ofReport raw = Statistics.ofReport raw') ∧
    (∀ raw : String, Statistics.ofReport (Text.withReturns raw) = Statistics.ofReport raw) ∧
    (∀ (indent : Nat → String) (raw : String),
      (∀ i, Text.isBlankText (indent i) = true ∧ '\n' ∉ (indent i).toList) →
      Statistics.ofReport (Text.reindented indent raw) = Statistics.ofReport raw) ∧
    ∀ raw : String, raw ≠ "" → raw.toList.getLast? ≠ some '\n' →
      Statistics.ofReport (raw ++ "\n") = Statistics.ofReport raw := by
  refine ⟨fun raw raw' same => ofReport_of_map_trim_eq same, fun raw => ?_, fun indent raw blank => ?_,
    fun raw nonempty isOpen => ?_⟩
  · refine ofReport_of_map_trim_eq ?_
    rw [Text.map_trim_lines, Text.map_trim_lines, Text.withReturns, String.toList_ofList,
      Text.Chars.map_trim_lines_withReturns]
  · exact ofReport_of_map_trim_eq (Text.map_trim_lines_reindented blank raw)
  · refine ofReport_of_map_trim_eq ?_
    have letters : raw.toList ≠ [] := mt String.toList_eq_nil_iff.mp nonempty
    rw [Text.map_trim_lines, Text.map_trim_lines, String.toList_append, show "\n".toList = ['\n'] from rfl,
      Text.Chars.map_trim_lines_append_newline letters isOpen]

/-- A letter in a count is blamed on the same line and quoted alike, however the report is padded. -/
theorem ofReport_ignores_padding_letter :
    Statistics.ofReport "Instruction Statistics:\n\nadd: 1 0 0 2x" = .error (.invalidCount 3 "2x") ∧
    (Text.lines "Instruction Statistics:\n\nadd: 1 0 0 2x").map Text.trim =
      (Text.lines "\t Instruction Statistics: \r\n  \n\u00A0add: 1 0 0 2x\r\r\n").map Text.trim ∧
    Statistics.ofReport "\t Instruction Statistics: \r\n  \n\u00A0add: 1 0 0 2x\r\r\n" =
      .error (.invalidCount 3 "2x") ∧
    Statistics.ofReport (Text.reindented (fun _ => "\t") "Instruction Statistics:\n\nadd: 1 0 0 2x") =
      .error (.invalidCount 3 "2x") ∧
    Statistics.ofReport ("Instruction Statistics:\n\nadd: 1 0 0 2x" ++ "\n") =
      .error (.invalidCount 3 "2x") := by
  have fails : Statistics.ofReport "Instruction Statistics:\n\nadd: 1 0 0 2x" =
      .error (.invalidCount 3 "2x") := by rfl
  have plain : (Text.lines "Instruction Statistics:\n\nadd: 1 0 0 2x").map Text.trim =
      ["Instruction Statistics:", "", "add: 1 0 0 2x"] := by rfl
  have same : (Text.lines "\t Instruction Statistics: \r\n  \n\u00A0add: 1 0 0 2x\r\r\n").map Text.trim =
      ["Instruction Statistics:", "", "add: 1 0 0 2x"] := by rfl
  obtain ⟨padded, -, indented, terminated⟩ := ofReport_ignores_padding
  exact ⟨fails, plain.trans same.symm, (padded _ _ (plain.trans same.symm)).symm.trans fails,
    (indented _ _ fun _ => ⟨by decide, by decide⟩).trans fails,
    (terminated _ (by decide) (by decide)).trans fails⟩

end Report

end SinglePath
