/-
**Toolchains: what compiles, merges, links and simulates.**

* `Toolchain σ` — four tools that answer calls and may change a state of type `σ` with each of them.
  Nothing else is known about them: an answer may depend on everything that happened before.
* `Call` and `Toolchain.recorded` — the same toolchain with a list of the calls it got, in order.
* `executablePath` — where the executable for one input goes.
-/

namespace SinglePath

/-- A tool could not be started at all. -/
structure ToolError where
  /-- The tool. -/
  tool : String
  /-- Why it could not be started. -/
  reason : String
  deriving DecidableEq, Repr, Inhabited

/-- The error in words. -/
def ToolError.message (e : ToolError) : String :=
  "failed to invoke '" ++ e.tool ++ "': " ++ e.reason

/-- How a compiler, merger or linker ended. -/
structure ToolRun where
  /-- Whether it reported success. -/
  success : Bool
  /-- What it wrote to its diagnostic stream. -/
  stderr : String
  deriving DecidableEq, Repr, Inhabited

/-- How a simulated program ended. -/
structure SimulatorRun where
  /-- Its exit code; there is none when a signal ended it. -/
  exitCode : Option Int
  /-- The output of the program. -/
  stdout : String
  /-- The diagnostic stream, which carries the statistics report. -/
  stderr : String
  deriving DecidableEq, Repr, Inhabited

/-- The tools that build and run one program. -/
structure Toolchain (σ : Type) where
  /-- Compiles `input` under `flags` into `output`. -/
  compile (input : String) (flags : List String) (output : String) : EStateM ToolError σ ToolRun
  /-- Merges the start routine with the source into `output`. -/
  merge (startRoutine source output : String) : EStateM ToolError σ ToolRun
  /-- Links `object` into `output`, with the input symbol bound to `input`. -/
  link (object input output : String) : EStateM ToolError σ ToolRun
  /-- Runs `executable` on the simulator. -/
  simulate (executable : String) : EStateM ToolError σ SimulatorRun

/-- One use of a tool. -/
inductive Call where
  | compile (input : String) (flags : List String) (output : String)
  | merge (startRoutine source output : String)
  | link (object input output : String)
  | simulate (executable : String)
  deriving DecidableEq, Repr, Inhabited

namespace Toolchain

/-- Notes a call and lets the tool answer it. -/
def noting {σ α : Type} (call : Call) (answer : EStateM ToolError σ α) :
    EStateM ToolError (σ × List Call) α := fun (state, calls) =>
  match answer.run state with
  | .ok result after => .ok result (after, calls ++ [call])
  | .error failure after => .error failure (after, calls ++ [call])

/-- The same toolchain, with the calls it got. -/
def recorded {σ : Type} (tools : Toolchain σ) : Toolchain (σ × List Call) where
  compile input flags output := noting (.compile input flags output) (tools.compile input flags output)
  merge startRoutine source output :=
    noting (.merge startRoutine source output) (tools.merge startRoutine source output)
  link object input output := noting (.link object input output) (tools.link object input output)
  simulate executable := noting (.simulate executable) (tools.simulate executable)

end Toolchain

/-- Where the executable of an object for one input goes: the input is appended to the path. -/
def executablePath (object input : String) : String :=
  object ++ input

end SinglePath
