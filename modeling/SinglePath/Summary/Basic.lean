/-
**Summary of a matrix that passed.**

* `ConfigurationSummary` — one configuration: its flags, the executions and the reference statistics.
* `Summary` — the program, its execution arguments and the configurations, in the order checked.
-/

import SinglePath.Check.Equivalence
import SinglePath.Flags.Configuration

namespace SinglePath

/-- One checked configuration. -/
structure ConfigurationSummary where
  /-- The flags, joined by spaces. -/
  flags : String
  /-- Whether the executions had to be equivalent. -/
  singlePath : Bool
  /-- How many executions there were. -/
  executions : Nat
  /-- How many of them were compared with the first. -/
  compared : Nat
  /-- The digest of the statistics of the first execution. -/
  fingerprint : String
  /-- The statistics of the first execution. -/
  statistics : List Statistic
  deriving DecidableEq, Repr, Inhabited

/-- Sums up a configuration that passed. -/
def ConfigurationSummary.of (c : Configuration) (outcome : Outcome) : ConfigurationSummary where
  flags := c.text
  singlePath := c.singlePath
  executions := outcome.executions
  compared := outcome.compared
  fingerprint := outcome.reference.fingerprint
  statistics := outcome.reference.entries

/-- All checked configurations of a program. -/
structure Summary where
  /-- The source that was tested. -/
  program : String
  /-- The execution arguments, as they are written. -/
  arguments : List String
  /-- The configurations, in the order checked. -/
  configurations : List ConfigurationSummary
  deriving DecidableEq, Repr, Inhabited

namespace Summary

/-- The summary before any configuration is checked. -/
def start (program : String) (arguments : List ExecutionArgument) : Summary :=
  ⟨program, arguments.map ExecutionArgument.text, []⟩

/-- Adds a configuration. -/
def push (s : Summary) (c : ConfigurationSummary) : Summary :=
  { s with configurations := s.configurations ++ [c] }

/-- How many configurations are single-path. -/
def singlePathCount (s : Summary) : Nat :=
  s.configurations.countP (·.singlePath)

end Summary

end SinglePath
