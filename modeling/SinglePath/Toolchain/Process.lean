/-
**Tools that run as processes.**

* `launch` — starts a tool: one without a slash in its path is looked up on the search path.
* `processes` — the toolchain of the tools that were found, over the files they read and write.
-/

import SinglePath.Shell.Schedule
import SinglePath.Toolchain.Basic
import SinglePath.Toolchain.Discovery

namespace SinglePath

open Text (Bytes)

namespace Process

/-- The shell's arguments for a file that is executed. -/
def fileInvocation (files : Files.Tree) (path tool : Bytes) (arguments : List Bytes) :
    Except Files.FileError (List Bytes) :=
  Shell.Program.invocation files.view (fun _ => false) Shell.Program.levelLimit path tool arguments

/-- The shell's arguments for the first of some paths that lead to a program. A path that leads nowhere is
passed over, and so is one that may not be executed. If there is no program the latter is reported, or
else what is wrong with the last path. -/
def firstProgram (files : Files.Tree) (tool : Bytes) (arguments : List Bytes) :
    List String → Files.FileError → Except Files.FileError (List Bytes)
  | [], cause => .error cause
  | path :: rest, cause =>
    match fileInvocation files (.ofText path) tool arguments with
    | .ok invocation => .ok invocation
    | .error other =>
      if other = .permissionDenied then firstProgram files tool arguments rest other
      else if other = .notFound || other = .notDirectory then
        firstProgram files tool arguments rest (if cause = .permissionDenied then cause else other)
      else .error other

/-- The paths that a tool without a slash in its name may be started by. -/
def candidates (searchPath : Option String) (tool : String) : List String :=
  match searchPath with
  | none => []
  | some entries =>
    (searchEntries (some entries)).map fun entry =>
      if entry.isEmpty then tool else entry ++ "/" ++ tool

/-- The shell's arguments for a tool. -/
def invocation (files : Files.Tree) (searchPath : Option String) (tool : String)
    (arguments : List String) : Except Files.FileError (List Bytes) := do
  let texts := arguments.map Bytes.ofText
  let name := Bytes.ofText tool
  if (name :: texts).any (·.contains (Char.ofNat 0)) then .error .nulInArgument
  else
    let found ←
      if name.contains '/' then
        fileInvocation files name name texts
      else if Files.longestName < name.length then .error .nameTooLong
      else firstProgram files name texts (candidates searchPath tool) .notFound
    if Shell.Program.fits (Shell.usualLimits.get 's').soft (name :: texts) then .ok found
    else .error .argumentsTooLong

/-- Starts a tool and waits for its end. -/
def launch (searchPath : Option String) (tool : String) (arguments : List String) :
    EStateM ToolError Files.Tree Shell.Ended := fun files =>
  match invocation files searchPath tool arguments with
  | .error cause => .error ⟨tool, cause.message⟩ files
  | .ok invocation =>
    let bindings := searchPath.toList.map fun value => ("PATH", value)
    let ended := Shell.launch files bindings invocation
    .ok ended ended.files

/-- How a compiler, merger or linker ended. -/
def toolRun (ended : Shell.Ended) : ToolRun :=
  ⟨ended.exitCode = some 0, Text.Utf8.decodeLossy ended.errors⟩

/-- How a simulator ended. -/
def simulatorRun (ended : Shell.Ended) : SimulatorRun :=
  ⟨ended.exitCode.map Int.ofNat, Text.Utf8.decodeLossy ended.output,
    Text.Utf8.decodeLossy ended.errors⟩

end Process

/-- The toolchain of tools that run as processes. -/
def processes (searchPath : Option String) (paths : ToolPaths) (settings : ToolSettings) :
    Toolchain Files.Tree where
  compile input flags output := do
    return Process.toolRun (← Process.launch searchPath paths.compiler
      ([input] ++ flags ++ settings.compilerArguments ++ ["-o", output]))
  merge startRoutine source output := do
    return Process.toolRun (← Process.launch searchPath paths.merger
      [startRoutine, source, "-o", output])
  link object input output := do
    return Process.toolRun (← Process.launch searchPath paths.linker
      (settings.linkerArguments ++
        ["-o", output, object, "--defsym", settings.inputSymbol ++ "=" ++ input]))
  simulate executable := do
    return Process.simulatorRun (← Process.launch searchPath paths.simulator
      (executable :: settings.simulatorArguments))

end SinglePath
