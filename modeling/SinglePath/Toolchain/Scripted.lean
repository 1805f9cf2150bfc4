/-
**A toolchain that answers from a list of rules.**

* `Rule` — an answer, and the calls it is for: a tool, and optionally which use of that tool, the
  input linked last and a flag compiled with last.
* `toolchain` — the toolchain that answers every call by the first rule for it. Where there is none,
  tools succeed silently and the simulator prints the given report.
-/

import SinglePath.Toolchain.Basic

namespace SinglePath.Scripted

/-- The four tools. -/
inductive Tool where
  | compile
  | merge
  | link
  | simulate
  deriving DecidableEq, Repr

/-- The name of a tool. -/
def Tool.name : Tool → String
  | .compile => "compile"
  | .merge => "merge"
  | .link => "link"
  | .simulate => "simulate"

/-- An answer and the calls it is for. -/
structure Rule where
  /-- The tool it is for. -/
  tool : Tool
  /-- Which use of the tool it is for, counted from one. -/
  nth : Option Nat := none
  /-- The input that must have been linked last. -/
  input : Option String := none
  /-- A flag that must have been compiled with last. -/
  flag : Option String := none
  /-- Why the tool cannot be started, if it cannot. -/
  unavailable : Option String := none
  /-- Whether the tool reports failure. -/
  fails : Bool := false
  /-- The exit code of the simulated program. -/
  exit : Int := 0
  /-- Whether a signal ends the simulated program. -/
  signalled : Bool := false
  /-- The output of the simulated program. -/
  stdout : String := ""
  /-- The diagnostic stream, if it is not the usual one. -/
  stderr : Option String := none

/-- What the toolchain remembers. -/
structure Memory where
  /-- The flags of the latest compile. -/
  flags : List String := []
  /-- The input of the latest link. -/
  input : String := ""
  /-- How often each tool was used. -/
  compiles : Nat := 0
  merges : Nat := 0
  links : Nat := 0
  simulations : Nat := 0
  deriving Repr

namespace Memory

/-- How often a tool was used. -/
def uses (m : Memory) : Tool → Nat
  | .compile => m.compiles
  | .merge => m.merges
  | .link => m.links
  | .simulate => m.simulations

/-- Counts one use of a tool. -/
def count (m : Memory) : Tool → Memory
  | .compile => { m with compiles := m.compiles + 1 }
  | .merge => { m with merges := m.merges + 1 }
  | .link => { m with links := m.links + 1 }
  | .simulate => { m with simulations := m.simulations + 1 }

end Memory

/-- Whether a rule is for a use of a tool. -/
def Rule.applies (rule : Rule) (m : Memory) (tool : Tool) : Bool :=
  rule.tool == tool && rule.nth.all (· == m.uses tool) && rule.input.all (· == m.input) &&
    rule.flag.all (m.flags.contains ·)

/-- Counts a use of a tool and finds the rule for it. A rule without conditions and with the usual
answer stands for the absence of a rule. -/
def consult (rules : List Rule) (tool : Tool) : EStateM ToolError Memory Rule := fun m =>
  let counted := m.count tool
  let rule := (rules.find? (·.applies counted tool)).getD { tool }
  match rule.unavailable with
  | some reason => .error ⟨tool.name, reason⟩ counted
  | none => .ok rule counted

/-- The answer of a compiler, merger or linker. -/
def Rule.toolRun (rule : Rule) : ToolRun :=
  ⟨!rule.fails, rule.stderr.getD ""⟩

/-- The answer of the simulator. -/
def Rule.simulatorRun (rule : Rule) (report : String) : SimulatorRun :=
  ⟨if rule.signalled then none else some rule.exit, rule.stdout, rule.stderr.getD report⟩

/-- The toolchain that answers from rules. -/
def toolchain (report : String) (rules : List Rule) : Toolchain Memory where
  compile _ flags _ := do
    modify fun m => { m with flags }
    return (← consult rules .compile).toolRun
  merge _ _ _ := do
    return (← consult rules .merge).toolRun
  link _ input _ := do
    modify fun m => { m with input }
    return (← consult rules .link).toolRun
  simulate _ := do
    return (← consult rules .simulate).simulatorRun report

end SinglePath.Scripted
