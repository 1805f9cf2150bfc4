/-
**Finding the tools.**

* `ToolPaths` — where the four tools are.
* `resolveIn` — a name that says where a file is stands for itself, any other is looked up in a
  directory.
* `resolveOn` — the same, looked up in the entries of a search path, of which the first that holds the
  tool counts.
* `discover` — all four tools, or the first one that is missing, in the order compiler, merger, linker,
  simulator.

Which paths lead to files is given as an arbitrary predicate.
-/

import SinglePath.Settings

namespace SinglePath

/-- A tool that is nowhere to be found. -/
structure MissingTool where
  /-- The tool, as it was configured. -/
  tool : String
  /-- Where it was looked for. -/
  searched : String
  deriving DecidableEq, Repr

/-- The error in words. -/
def MissingTool.message (e : MissingTool) : String :=
  "required tool '" ++ e.tool ++ "' could not be found (searched " ++ e.searched ++ ")"

/-- Where the tools are. -/
structure ToolPaths where
  compiler : String
  merger : String
  linker : String
  simulator : String
  deriving DecidableEq, Repr, Inhabited

/-- The tools by what they do. -/
def ToolPaths.roles (paths : ToolPaths) : List (String × String) :=
  [("compiler", paths.compiler), ("merger", paths.merger), ("linker", paths.linker),
   ("simulator", paths.simulator)]

/-- The directories of a search path. No search path at all is one empty entry, as an empty one is. -/
def searchEntries (searchPath : Option String) : List String :=
  Text.pieces ':' (searchPath.getD "")

section

variable (isFile : String → Bool)

/-- A tool in a directory, unless its name says where it is. -/
def resolveIn (directory name : String) : Except MissingTool String :=
  let candidate := if Files.Path.isPathLike name then name else Files.Path.join directory name
  if isFile candidate then .ok candidate else .error ⟨name, directory⟩

/-- A tool in the first of some directories that holds it, unless its name says where it is. -/
def resolveOn (entries : List String) (name : String) : Except MissingTool String :=
  if Files.Path.isPathLike name then
    if isFile name then .ok name else .error ⟨name, name⟩
  else
    match (entries.map fun entry => Files.Path.join entry name).find? isFile with
    | some candidate => .ok candidate
    | none => .error ⟨name, "PATH"⟩

/-- Finds the compiler and the merger in a directory, and the linker and the simulator on the search
path. -/
def discover (searchPath : Option String) (directory : String) (tools : ToolSettings) :
    Except MissingTool ToolPaths := do
  let entries := searchEntries searchPath
  return {
    compiler := ← resolveIn isFile directory tools.compiler
    merger := ← resolveIn isFile directory tools.merger
    linker := ← resolveOn isFile entries tools.linker
    simulator := ← resolveOn isFile entries tools.simulator }

end

end SinglePath
