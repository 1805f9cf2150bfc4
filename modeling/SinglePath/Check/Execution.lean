/-
**Checking one execution.**

* `require` — runs a tool, and fails unless it could be started and reports success.
* `execute` — links a program for one input, simulates it, and returns its statistics, provided that it
  ended with the expected exit code and its report can be read.
-/

import SinglePath.Check.Failure

namespace SinglePath

/-- Reads the statistics of a simulated program that must have ended as expected. -/
def SimulatorRun.statistics (run : SimulatorRun) (program : String) (argument : ExecutionArgument) :
    Except ExecutionFailure Statistics :=
  if run.exitCode = some argument.expected then
    match Statistics.ofReport run.stderr with
    | .ok statistics => .ok statistics
    | .error cause => .error (.noStatistics program argument.input run.stderr cause)
  else .error (.wrongResult program argument.input argument.expected run)

/-- Runs a tool that must report success. -/
def require {ε σ : Type} (run : EStateM ToolError σ ToolRun) (missing : ToolError → ε)
    (failed : String → ε) : EStateM ε σ Unit := do
  let ended ← EStateM.adaptExcept missing run
  if !ended.success then throw (failed ended.stderr)

/-- Links, simulates and reads the statistics of one execution. -/
def execute {σ : Type} (tools : Toolchain σ) (program : String) (argument : ExecutionArgument) :
    EStateM ExecutionFailure σ Statistics := do
  let executable := executablePath program argument.input
  require (tools.link program argument.input executable) .tool (.notLinked program argument.input)
  let run ← EStateM.adaptExcept .tool (tools.simulate executable)
  match run.statistics program argument with
  | .ok statistics => return statistics
  | .error failure => throw failure

end SinglePath
