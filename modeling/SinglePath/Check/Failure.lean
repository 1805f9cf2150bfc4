/-
**Why a check fails.**

* `ExecutionFailure` — one execution: it could not be linked, ended wrongly, or printed no statistics.
* `TestFailure` — one configuration: an execution failed, the program could not be built, or two
  executions of single-path code differ.
* `MatrixFailure` — the first configuration of a matrix that failed.

Each has a `message` with all that is needed to look into it.
-/

import SinglePath.Argument
import SinglePath.Statistics.Report
import SinglePath.Text.Layout
import SinglePath.Toolchain.Basic

namespace SinglePath

/-- Why one execution fails its check. -/
inductive ExecutionFailure where
  /-- The linker gave no executable. -/
  | notLinked (program input stderr : String)
  /-- The program did not end with the expected exit code. -/
  | wrongResult (program input : String) (expected : Int) (run : SimulatorRun)
  /-- The simulator printed no statistics. -/
  | noStatistics (program input raw : String) (cause : ReportError)
  /-- A tool could not be started. -/
  | tool (error : ToolError)
  deriving DecidableEq, Repr

/-- How a program ended, in words. -/
def SimulatorRun.ending (run : SimulatorRun) : String :=
  match run.exitCode with
  | some code => Text.Decimal.ofInt code
  | none => "terminated by signal"

/-- The failure in words. -/
def ExecutionFailure.message : ExecutionFailure → String
  | .notLinked program input stderr =>
    "failed to generate executable from '" ++ program ++ "' for argument '" ++ input ++ "'" ++
      Text.toolOutput stderr
  | .wrongResult program input expected run =>
    "the execution of '" ++ program ++ "' for input argument '" ++ input ++
      "' gave the wrong exit code\n" ++ Text.titled "Expected" (Text.Decimal.ofInt expected) ++
      Text.titled "Actual" run.ending ++ Text.titled "stdout" run.stdout ++
      Text.titled "stderr" run.stderr ++ Text.rule
  | .noStatistics program input raw cause =>
    "the simulator printed no statistics for '" ++ program ++ "' with input '" ++ input ++ "' (" ++
      cause.message ++ ")\n" ++ Text.titled "stderr" raw
  | .tool error => error.message

/-- Two executions that should be equivalent and are not. -/
structure Divergence where
  /-- The program that was executed. -/
  program : String
  /-- The argument of the execution compared with. -/
  reference : ExecutionArgument
  /-- The argument of the execution that differs. -/
  candidate : ExecutionArgument
  /-- The statistics compared with. -/
  referenceStatistics : Statistics
  /-- The statistics that differ. -/
  candidateStatistics : Statistics
  /-- A diff of the two texts. -/
  diff : String
  deriving DecidableEq, Repr

/-- Why one configuration fails its check. -/
inductive TestFailure where
  /-- There is nothing to execute. -/
  | noArguments
  /-- An execution failed. -/
  | execution (failure : ExecutionFailure)
  /-- Two executions of single-path code differ. -/
  | divergence (found : Divergence)
  /-- The source was not compiled. -/
  | notCompiled (input stderr : String)
  /-- The source was not merged with the start routine. -/
  | notMerged (program startRoutine stderr : String)
  /-- A tool could not be started. -/
  | tool (error : ToolError)
  deriving DecidableEq, Repr

/-- The failure in words. -/
def TestFailure.message : TestFailure → String
  | .noArguments => "no execution arguments to check"
  | .execution failure => failure.message
  | .divergence found =>
    "the execution of '" ++ found.program ++ "' for execution arguments '" ++ found.reference.text ++
      "' and '" ++ found.candidate.text ++ "' weren't equivalent\n" ++ found.diff
  | .notCompiled input stderr => "failed to compile '" ++ input ++ "'" ++ Text.toolOutput stderr
  | .notMerged program startRoutine stderr =>
    "failed to link '" ++ program ++ "' and '" ++ startRoutine ++ "'" ++ Text.toolOutput stderr
  | .tool error => error.message

/-- The first configuration of a matrix that failed. -/
structure MatrixFailure where
  /-- The flags of the configuration. -/
  configuration : String
  /-- Why it failed. -/
  failure : TestFailure
  deriving DecidableEq, Repr

/-- The failure in words. -/
def MatrixFailure.message (f : MatrixFailure) : String :=
  f.failure.message ++ "\ncompiler flags: [" ++ f.configuration ++ "]"

end SinglePath
