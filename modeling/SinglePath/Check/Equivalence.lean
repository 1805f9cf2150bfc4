/-
**Checking that executions are equivalent.**

* `checkExecutions` — executes a program for every argument, in order, and stops at the first failure.
  With `singlePath`, every execution must agree with the first one, which makes any two of them agree.
-/

import SinglePath.Check.Execution
import SinglePath.Diff.Unified

namespace SinglePath

/-- What a passed check found. -/
structure Outcome where
  /-- The statistics of the first execution. -/
  reference : Statistics
  /-- How many executions there were. -/
  executions : Nat
  /-- How many of them were compared with the first. -/
  compared : Nat
  deriving DecidableEq, Repr, Inhabited

/-- The divergence of an execution from the reference. -/
def Divergence.between (program : String) (first candidate : ExecutionArgument)
    (reference statistics : Statistics) : Divergence where
  program
  reference := first
  candidate
  referenceStatistics := reference
  candidateStatistics := statistics
  diff := Diff.unified reference.text statistics.text first.text candidate.text

/-- Executes the arguments after the first one and compares them with it; returns how many were
compared. -/
def checkRest {σ : Type} (tools : Toolchain σ) (program : String) (singlePath : Bool)
    (first : ExecutionArgument) (reference : Statistics) :
    List ExecutionArgument → EStateM TestFailure σ Nat
  | [] => return 0
  | argument :: rest => do
    let statistics ← EStateM.adaptExcept .execution (execute tools program argument)
    if singlePath && !statistics.agrees reference then
      throw (.divergence (.between program first argument reference statistics))
    let compared ← checkRest tools program singlePath first reference rest
    return if singlePath then compared + 1 else compared

/-- Executes a program for every argument; single-path code must behave alike on all of them. -/
def checkExecutions {σ : Type} (tools : Toolchain σ) (program : String)
    (arguments : List ExecutionArgument) (singlePath : Bool) : EStateM TestFailure σ Outcome := do
  match arguments with
  | [] => throw .noArguments
  | first :: rest =>
    let reference ← EStateM.adaptExcept .execution (execute tools program first)
    let compared ← checkRest tools program singlePath first reference rest
    return ⟨reference, arguments.length, compared⟩

end SinglePath
