/-
**Reading the statistics out of a simulator report.**

* `Statistics.ofReport` — reads a report: the instruction table up to its totals row, the cycle count,
  and the profiling table, in this order. Everything else in the report is skipped.
* `ReportError` — why a report cannot be read, with the line at fault where there is one;
  `ReportError.message` words it.

The report is read as a list of numbered lines, and each section consumes lines from the front. A line
is only ever looked at trimmed or split into fields, so its padding does not matter.
-/

import SinglePath.Statistics.Basic
import SinglePath.Text.Blank
import SinglePath.Text.Lines

namespace SinglePath

/-- What was found instead of a statistics report. -/
inductive NotAReport where
  /-- The summary that the simulator prints when it does not understand its options. -/
  | optionSummary
  /-- No instruction table at all. -/
  | noStatistics
  deriving DecidableEq, Repr

/-- The part of a report that was still to come when it ended. -/
inductive Awaited where
  | totalsRow
  | cycleCount
  | profilingSection
  | profilingHeader
  | profileRow
  | invocationCount
  deriving DecidableEq, Repr

/-- Why a report cannot be read. Lines count from one, fields from zero. -/
inductive ReportError where
  /-- The text is no statistics report. -/
  | malformed (found : NotAReport)
  /-- The report ends too early. -/
  | truncated (expected : Awaited)
  /-- A count is no number, or the counts of a row are too large together. -/
  | invalidCount (line : Nat) (text : String)
  /-- A line has too few fields. -/
  | missingField (line : Nat) (index : Nat)
  deriving DecidableEq, Repr

namespace Report

/-! ### Markers of the report -/

/-- The line above the instruction table. -/
def instructionHeader : String := "Instruction Statistics:"

/-- The line above the simulator's option summary. -/
def optionsHeader : String := "Pasim options:"

/-- How the row that ends the instruction table begins. -/
def totalsMarker : String := "all:"

/-- How the line of the cycle count begins. -/
def cyclesMarker : String := "Cycles:"

/-- How the line above the profiling table begins. -/
def profilingMarker : String := "Profiling information:"

/-- Fetch counts are below this bound, alone and added up. -/
def countBound : Nat := 18446744073709551616

end Report

/-! ### Wording of the errors -/

/-- What was found instead of a report, in words. -/
def NotAReport.describe : NotAReport → String
  | .optionSummary => "found '" ++ Report.optionsHeader ++ "' before any statistics"
  | .noStatistics => "no '" ++ Report.instructionHeader ++ "' section"

/-- The missing part of a report, in words. -/
def Awaited.describe : Awaited → String
  | .totalsRow => "instruction totals row (\"all:\")"
  | .cycleCount => "cycle count (\"Cycles:\")"
  | .profilingSection => "profiling section (\"Profiling information:\")"
  | .profilingHeader => "profiling table header"
  | .profileRow => "function profile row"
  | .invocationCount => "function invocation count"

/-- The error in words. -/
def ReportError.message : ReportError → String
  | .malformed found => "malformed statistics report: " ++ found.describe
  | .truncated expected => "truncated statistics report: expected " ++ expected.describe
  | .invalidCount line text =>
    "invalid count on line " ++ Text.Decimal.ofNat line ++ ": '" ++ text ++ "'"
  | .missingField line index =>
    "line " ++ Text.Decimal.ofNat line ++ " has no field at index " ++ Text.Decimal.ofNat index

namespace Report

/-! ### Lines -/

/-- A line of a report with its number. -/
structure Line where
  /-- Lines count from one. -/
  number : Nat
  /-- The text of the line, with its padding. -/
  text : String

/-- Numbers lines, the first one with `first`. -/
def numbered (first : Nat) : List String → List Line
  | [] => []
  | text :: rest => ⟨first, text⟩ :: numbered (first + 1) rest

namespace Line

/-- The line without padding. -/
def trimmed (line : Line) : String :=
  Text.trim line.text

/-- Whether the line begins with a marker, padding apart. -/
def marks (line : Line) (marker : String) : Bool :=
  Text.beginsWith marker line.trimmed

/-- The field at an index. -/
def field (line : Line) (index : Nat) : Except ReportError String :=
  match (Text.fields line.text)[index]? with
  | some text => .ok text
  | none => .error (.missingField line.number index)

/-- The field at an index, read as a count. -/
def count (line : Line) (index : Nat) : Except ReportError Nat := do
  let text ← line.field index
  match Text.Decimal.readNat? countBound text with
  | some value => .ok value
  | none => .error (.invalidCount line.number text)

/-- The fetches of one row of the instruction table: the sum of its two fetch columns. -/
def fetchRow (line : Line) : Except ReportError Statistic := do
  let instruction ← line.field 0
  let first ← line.count 1
  let second ← line.count 4
  if first + second < countBound then .ok (.fetch instruction (first + second))
  else .error (.invalidCount line.number line.trimmed)

/-- The cycle count: its label and the field after it. -/
def cycleRow (line : Line) : Except ReportError Statistic := do
  let label ← line.field 0
  let count ← line.field 1
  .ok (.cycles label count)

/-- The function that a profile is about: what stands between the angle brackets. -/
def functionName? (line : Line) : Option String :=
  match line.trimmed.toList with
  | '<' :: rest => some (String.ofList (rest.takeWhile (· ≠ '>')))
  | _ => none

end Line

/-! ### Sections -/

/-- The lines after the header of the instruction table. -/
def afterHeader : List Line → Except ReportError (List Line)
  | [] => .error (.malformed .noStatistics)
  | line :: rest =>
    if line.trimmed = instructionHeader then .ok rest
    else if line.trimmed = optionsHeader then .error (.malformed .optionSummary)
    else afterHeader rest

/-- The rows of the instruction table, and the lines after its totals row. -/
def fetchRows : List Line → Except ReportError (List Statistic × List Line)
  | [] => .error (.truncated .totalsRow)
  | line :: rest =>
    if line.marks totalsMarker then .ok ([], rest)
    else do
      let row ← line.fetchRow
      let (rows, after) ← fetchRows rest
      .ok (row :: rows, after)

/-- The first line that begins with a marker, and the lines after it. -/
def seek (marker : String) (expected : Awaited) : List Line → Except ReportError (Line × List Line)
  | [] => .error (.truncated expected)
  | line :: rest => if line.marks marker then .ok (line, rest) else seek marker expected rest

/-- The lines after the three header rows of the profiling table. -/
def afterProfilingHeader : List Line → Except ReportError (List Line)
  | _ :: _ :: _ :: rest => .ok rest
  | _ => .error (.truncated .profilingHeader)

/-- The calls of the profiled functions: three lines each, up to the first line that opens none. -/
def callRows : List Line → Except ReportError (List Statistic)
  | [] => .ok []
  | opening :: rest =>
    match opening.functionName? with
    | none => .ok []
    | some function =>
      match rest with
      | [] => .error (.truncated .profileRow)
      | [_] => .error (.truncated .invocationCount)
      | _ :: countLine :: after => do
        let count ← countLine.field 0
        let calls ← callRows after
        .ok (.calls function count :: calls)

/-- Reads the sections of a report in order. The line under the first header is a row of column
titles. -/
def read (lines : List Line) : Except ReportError Statistics := do
  let table ← afterHeader lines
  let (fetches, afterTable) ← fetchRows (table.drop 1)
  let (cycleLine, afterCycles) ← seek cyclesMarker .cycleCount afterTable
  let cycles ← cycleLine.cycleRow
  let (_, profiling) ← seek profilingMarker .profilingSection afterCycles
  let profiles ← afterProfilingHeader profiling
  let calls ← callRows profiles
  .ok ⟨fetches ++ cycles :: calls⟩

end Report

/-- The statistics of a simulator report. -/
def Statistics.ofReport (raw : String) : Except ReportError Statistics :=
  Report.read (Report.numbered 1 (Text.lines raw))

end SinglePath
