/-
**Programs that take the place of a process.**

* `startVariables` — the variables that a shell starts with.
* `renew` — makes a process a new shell. Only what programs leave to others stays.
* `execute` — lets a process execute a program.
-/

import SinglePath.Shell.Builtin.Names
import SinglePath.Shell.Program
import SinglePath.Shell.Runner

namespace SinglePath.Shell

open Text (Bytes)

/-- The variables that other programs get. -/
def environment (p : Process) : List (String × Variable) :=
  (p.bindings.toList.filter fun (_, v) => v.exported && v.value.isSome).map fun (name, v) =>
    (name, { value := v.value, exported := true })

/-- The variables that a shell starts with, given those it gets, the process that started it and the path
of its directory. -/
def startVariables (given : List (String × Variable)) (parent : Nat) (path : Bytes) :
    Std.TreeMap String Variable :=
  let set (text : Bytes) : Variable := { value := some text }
  let fixed := [("IFS", set [' ', '\t', '\n']), ("OPTIND", set ['1']), ("PPID", set (.ofNat parent)),
    ("PWD", { value := some path, exported := true })]
  let usual := [("PS1", set ['#', ' ']), ("PS2", set ['>', ' ']), ("PS4", set ['+', ' ']),
    ("PATH", { value := some systemPath })]
  .ofList (usual ++ given ++ fixed)

/-- The path by which a new shell knows its directory: the one it is given, if that leads there. -/
def startPath (s : State) : Bytes :=
  let place := s.self.directory
  match (environment s.self).lookup "PWD" with
  | some { value := some ('/' :: path), .. } =>
    match s.find ('/' :: path) with
    | .ok (found, .directory) => if found = place then '/' :: path else Files.pathOf place
    | _ => Files.pathOf place
  | _ => Files.pathOf place

/-- Makes the process that runs now a new shell. Only what programs leave to others stays. -/
def renew (name : Bytes) : Action Unit :=
  modify fun s =>
    let p := s.self
    let path := startPath s
    let next : Process :=
      { number := p.number
        parent := p.parent
        script := p.number
        name
        bindings := startVariables (environment p) p.parent path
        ignored := (p.traps.filter (·.2.isEmpty)).map Prod.fst ++ p.ignored
        descriptors := p.descriptors.filter (·.1 < 10)
        limits := p.limits
        directory := p.directory
        path
        mask := p.mask
        line := 0 }
    State.releaseAll { s with self := next } (p.descriptors.map Prod.snd)

/-- Complains that a program cannot be executed, and ends the process. -/
def failExecuting (name : Bytes) (cause : Files.FileError) : Action Nat := do
  complainProgram name cause
  setStatus (match cause with
    | .notFound | .notDirectory | .nameTooLong | .tooManyLevels => 127
    | _ => 126)
  throw .exit

/-- The shell's arguments for a file that is executed. One that is no program is taken for a script. -/
def fileInvocation (s : State) (name path : Bytes) (arguments : List Bytes) :
    Except Files.FileError (List Bytes) :=
  let given := (environment s.self).map fun (name, v) => name.toList ++ '=' :: v.value.getD []
  if !Program.fits (s.self.limits.get 's').soft (path :: name :: arguments ++ given) then
    .error .argumentsTooLong
  else
    match Program.invocation s.view s.isWritten Program.levelLimit path name arguments with
    | .error .notExecutableFormat => .ok ("/bin/sh".toList :: path :: arguments)
    | other => other

/-- The shell's arguments for the first of some files that can be executed; otherwise, why that is not
possible. -/
def firstInvocation (s : State) (name : Bytes) (arguments : List Bytes) :
    List Bytes → Files.FileError → Except Files.FileError (List Bytes)
  | [], cause => .error cause
  | path :: rest, cause =>
    match fileInvocation s name path arguments with
    | .ok invocation => .ok invocation
    | .error .notFound | .error .notDirectory => firstInvocation s name arguments rest cause
    | .error other => firstInvocation s name arguments rest other

/-- Lets the process that runs now execute a program, up to the end of the process. -/
def execute (run : Runner) (name : Bytes) (paths arguments : List Bytes) : Action Nat := do
  match firstInvocation (← get) name arguments paths .notFound with
  | .ok invocation =>
    renew (invocation.headD [])
    throw (.ended (← finish run (run (.shell invocation.tail))))
  | .error cause => failExecuting name cause

end SinglePath.Shell
