/-
**Commands that the shell carries out itself.**

* `Builtin` — such a command. A mistake of a special one ends the script, and assignments before it
  stay.
* `builtin?` — the command of a name, other than those that run commands themselves.
* `describe` — what a name stands for, as `type` and `command` tell it.
-/

import SinglePath.Shell.Builtin.Arguments
import SinglePath.Shell.Builtin.Condition
import SinglePath.Shell.Builtin.Flow
import SinglePath.Shell.Builtin.Jobs
import SinglePath.Shell.Builtin.Limits
import SinglePath.Shell.Builtin.Names
import SinglePath.Shell.Builtin.Streams

namespace SinglePath.Shell

open Text (Bytes)

/-- A command that the shell carries out itself. -/
structure Builtin where
  /-- Whether a mistake ends the script, and assignments before the command stay. -/
  special : Bool := false
  /-- Whether arguments that look like assignments are expanded like them. -/
  assigns : Bool := false
  run : List Bytes → Action Nat

/-- A command that the shell carries out itself, but not here. -/
def elsewhere (_ : List Bytes) : Action Nat :=
  return 0

/-- The commands that the shell carries out itself. -/
def builtins : List (String × Builtin) :=
  [(".", { special := true, run := elsewhere }),
   (":", { special := true, run := fun _ => return 0 }),
   ("[", { run := bracket }),
   ("alias", { assigns := true, run := alias_ }),
   ("bg", { run := resumeJob }),
   ("break", { special := true, run := loopControl .loops }),
   ("cd", { run := cd }),
   ("chdir", { run := cd }),
   ("command", { run := elsewhere }),
   ("continue", { special := true, run := loopControl .turn }),
   ("echo", { run := echo }),
   ("eval", { special := true, run := elsewhere }),
   ("exec", { special := true, run := elsewhere }),
   ("exit", { special := true, run := exit }),
   ("export", { special := true, assigns := true,
                run := markVariables "export " (·.exported) fun v => { v with exported := true } }),
   ("false", { run := fun _ => return 1 }),
   ("fg", { run := resumeJob }),
   ("getopts", { run := getopts }),
   ("hash", { run := elsewhere }),
   ("jobs", { run := jobs }),
   ("kill", { run := kill }),
   ("local", { special := true, assigns := true, run := local_ }),
   ("printf", { run := printf }),
   ("pwd", { run := pwd }),
   ("read", { run := read }),
   ("readonly", { special := true, assigns := true,
                  run := markVariables "readonly " (·.readOnly) fun v => { v with readOnly := true } }),
   ("return", { special := true, run := return_ }),
   ("set", { special := true, run := set_ }),
   ("shift", { special := true, run := shift }),
   ("test", { run := test }),
   ("times", { special := true,
               run := fun _ => do
                 print "0m0.000000s 0m0.000000s\n0m0.000000s 0m0.000000s\n".toList
                 return 0 }),
   ("trap", { special := true, run := trap }),
   ("true", { run := fun _ => return 0 }),
   ("type", { run := elsewhere }),
   ("ulimit", { run := ulimit }),
   ("umask", { run := umask }),
   ("unalias", { run := unalias }),
   ("unset", { special := true, run := unset }),
   ("wait", { run := wait })]

/-- The command of a name. -/
def builtin? (name : Bytes) : Option Builtin :=
  builtins.lookup (String.ofList name)

/-! ### What names stand for -/

/-- The path of the program that a name stands for, and whether it was known before. Without a search
path, that of the process is taken, and it remembers what it finds. -/
def programPath? (searchPath : Option Bytes) (name : Bytes) : Action (Option (Bytes × Bool)) := do
  let s ← get
  match searchPath with
  | some searchPath =>
    match searchProgram s.view name none (pathEntries searchPath) 0 .notFound with
    | .ok index => return ((programPaths searchPath index name).head?).map (·, false)
    | .error _ => return none
  | none =>
    let known := s.self.known.find? (·.name = String.ofList name)
    let found ← match known with
      | some known => pure (.ok known.index)
      | none => lookUp name
    match found with
    | .ok index => return ((programPaths s.self.searchPath index name).head?).map (·, known.isSome)
    | .error _ => return none

/-- Tells what a name stands for; programs are looked for in a search path. -/
def describe (verbose : Bool) (searchPath : Option Bytes) (name : Bytes) : Action Nat := do
  let s ← get
  let text := String.ofList name
  let tell (long : Bytes) (short : Bytes) : Action Nat := do
    print (if verbose then name ++ long ++ ['\n'] else short ++ ['\n'])
    return 0
  let missing : Action Nat := do
    if verbose then print (name ++ ": not found\n".toList)
    return 127
  if keywords.contains text then tell " is a shell keyword".toList name
  else
    match s.self.aliases.lookup text with
    | some value =>
      if verbose then print (name ++ " is an alias for ".toList ++ value ++ ['\n'])
      else print ("alias ".toList ++ aliasText text value)
      return 0
    | none =>
      if name.contains '/' then
        if (s.find name).isOk then tell (" is ".toList ++ name) name else missing
      else if (s.self.functions.lookup text).isSome then tell " is a shell function".toList name
      else
        match builtin? name with
        | some b =>
          tell (if b.special then " is a special shell builtin" else " is a shell builtin").toList name
        | none =>
          match ← programPath? searchPath name with
          | some (path, known) =>
            tell ((if known then " is a tracked alias for " else " is ").toList ++ path) path
          | none => missing

/-- Tells what names stand for. -/
def type_ (arguments : List Bytes) : Action Nat := do
  let mut status := 0
  for name in arguments do
    status := status ||| (← describe true none name)
  return status

/-- Looks programs up, so that they are known, or lists those that are. -/
def hash (arguments : List Bytes) : Action Nat := do
  match arguments with
  | ('-' :: 'r' :: _) :: _ => modifySelf fun p => { p with known := [] }
  | _ => pure ()
  let (found, names) ← options "r" arguments
  if !found.isEmpty then return 0
  if names.isEmpty then listPrograms
  let mut status := 0
  for name in names do
    forgetProgram (String.ofList name)
    let p ← self
    let isOther := name.contains '/' || (p.functions.lookup (String.ofList name)).isSome ||
      (builtin? name).isSome
    if !isOther then
      match ← lookUp name with
      | .ok _ => pure ()
      | .error cause =>
        complainProgram name cause
        status := 1
  return status

end SinglePath.Shell
