/-
**Checking a program under a whole flag matrix.**

* `checkConfiguration` — compiles the source, merges it with the start routine, compiles the result and
  checks its executions. The first compile only serves to report errors of the source early.
* `checkMatrix` — checks every configuration in order and stops at the first that fails. The run tells
  which configurations were started, so that progress can be shown.
-/

import SinglePath.Check.Equivalence
import SinglePath.Flags.Matrix
import SinglePath.Summary.Basic

namespace SinglePath

/-- The files of the program under test. -/
structure Program where
  /-- The source. -/
  source : String
  /-- The routine that is merged with the source. -/
  startRoutine : String
  /-- Where the compiled program goes, for every configuration anew. -/
  compiled : String
  deriving DecidableEq, Repr, Inhabited

/-- Builds the program under one configuration and checks its executions. -/
def checkConfiguration {σ : Type} (tools : Toolchain σ) (program : Program)
    (arguments : List ExecutionArgument) (c : Configuration) : EStateM TestFailure σ Outcome := do
  require (tools.compile program.source c.flags program.compiled) .tool (.notCompiled program.source)
  require (tools.merge program.startRoutine program.source program.compiled) .tool
    (.notMerged program.source program.startRoutine)
  require (tools.compile program.compiled c.flags program.compiled) .tool (.notCompiled program.source)
  checkExecutions tools program.compiled arguments c.singlePath

/-- A matrix run under way. -/
structure Progress (σ : Type) where
  /-- The state of the tools. -/
  tools : σ
  /-- The configurations that were started, in order. -/
  started : List Configuration
  /-- What is known so far. -/
  summary : Summary

/-- Checks one configuration of a run under way. -/
def Progress.visit {σ : Type} (tools : Toolchain σ) (program : Program)
    (arguments : List ExecutionArgument) (c : Configuration) :
    EStateM MatrixFailure (Progress σ) Unit := fun progress =>
  let started := progress.started ++ [c]
  match (checkConfiguration tools program arguments c).run progress.tools with
  | .ok outcome after =>
    .ok () { tools := after, started, summary := progress.summary.push (.of c outcome) }
  | .error failure after => .error ⟨c.text, failure⟩ { progress with tools := after, started }

/-- A finished matrix run. -/
structure MatrixRun (σ : Type) where
  /-- The summary, or the first failure. -/
  verdict : Except MatrixFailure Summary
  /-- The configurations that were started, in order. -/
  started : List Configuration
  /-- The state of the tools afterwards. -/
  tools : σ

/-- Checks a program under every configuration of a matrix. -/
def checkMatrix {σ : Type} (tools : Toolchain σ) (program : Program)
    (arguments : List ExecutionArgument) (singlePathFlag : String) (base : List String)
    (matrix : FlagMatrix) (state : σ) : MatrixRun σ :=
  let visits := matrix.walk base singlePathFlag (Progress.visit tools program arguments)
  match visits.run ⟨state, [], .start program.source arguments⟩ with
  | .ok () final => ⟨.ok final.summary, final.started, final.tools⟩
  | .error failure final => ⟨.error failure, final.started, final.tools⟩

end SinglePath
