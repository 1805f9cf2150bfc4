/-
**Simple commands.**

* `Prepared` — a simple command with its first words expanded, and what they stand for.
* `performBuiltin` — carries out a built-in command. Some of them run commands themselves.
* `callFunction` — calls a function.
* `performSimple` — carries out a simple command: expansions, redirections, assignments, and then what its
  words stand for.
-/

import SinglePath.Shell.Builtin
import SinglePath.Shell.Execute
import SinglePath.Shell.Input

namespace SinglePath.Shell

open Text (Bytes)

/-- Shows a command, with what is written before it. -/
def showCommand (number : Option Nat) (words : List Bytes) : Action Unit := do
  let p ← self
  if p.has 'x' && !p.showing then
    modifySelf fun p => { p with showing := true }
    let lead := (p.lookup "PS4").getD []
    let shown ← match parseText { rest := lead } with
      | .ok word _ => do pure (joined (← expandRuns capture {} word))
      | .error _ _ => pure lead
    modifySelf fun p => { p with showing := false }
    match number with
    | some number =>
      let _ ← writeOpen number (shown ++ Bytes.join [' '] words ++ ['\n'])
    | none => return

/-! ### What a command is -/

/-- What the first word of a simple command stands for. -/
inductive Meaning where
  /-- There is no word. -/
  | nothing
  | function (body : Command)
  | builtin (b : Builtin)
  | program

/-- A simple command with its words expanded. -/
structure Prepared where
  words : List Bytes
  meaning : Meaning
  /-- Whether a mistake ends the script; decided by the first word. -/
  special : Bool := false
  /-- Whether redirections stay. -/
  stays : Bool := false
  /-- How many words before the command only say how it is to be carried out. -/
  skipped : Nat := 0
  /-- Whether programs are looked for where every system has them. -/
  systemOnly : Bool := false

/-- What a word stands for. -/
def meaningOf (p : Process) (allowFunctions : Bool) (name : Bytes) : Meaning :=
  match if allowFunctions then p.functions.lookup (String.ofList name) else none with
  | some body => if name.contains '/' then .program else .function body
  | none =>
    match builtin? name with
    | some b => .builtin b
    | none => .program

/-- Expands words until there is an argument. -/
def expandUntil : List Word → Action (List Bytes × List Word)
  | [] => return ([], [])
  | word :: rest => do
    match ← expandFields capture word with
    | [] => expandUntil rest
    | fields => return (fields, rest)

/-- The arguments of `command` before the command that it is to carry out: how many there are, and
whether programs are looked for where every system has them. There is no such command if it is asked
to describe one. -/
inductive CommandLead where
  | options (count : Nat) (systemOnly : Bool)
  /-- More arguments are needed to tell. -/
  | unfinished
  | description

/-- Reads the options of `command`. -/
def commandLead (count : Nat) (systemOnly : Bool) : List Bytes → CommandLead
  | [] => .unfinished
  | [['-', '-']] => .unfinished
  | ['-', '-'] :: _ => .options (count + 1) systemOnly
  | ('-' :: c :: letters) :: rest =>
    if (c :: letters).all (· == 'p') then commandLead (count + 1) true rest else .description
  | _ => .options count systemOnly

/-- Finds out what a command is, in at most `fuel` steps, looking through `command`. Words are expanded
as far as that needs. -/
def prepare : Nat → Prepared → List Word → Action (Prepared × List Word)
  | 0, prepared, rest => return (prepared, rest)
  | fuel + 1, prepared, rest => do
    match prepared.words.drop prepared.skipped with
    | [] => return (prepared, rest)
    | name :: others =>
      let isFirst := prepared.skipped = 0
      let meaning := meaningOf (← self) isFirst name
      let special := match meaning with
        | .builtin b => if isFirst then b.special else prepared.special
        | _ => prepared.special
      let isBuiltin := match meaning with
        | .builtin _ => true
        | _ => false
      let found := { prepared with meaning, special, stays := isBuiltin && name = "exec".toList }
      if !isBuiltin || name ≠ "command".toList then return (found, rest)
      else
        match commandLead 0 prepared.systemOnly others with
        | .description => return (found, rest)
        | .options count systemOnly =>
          prepare fuel { found with skipped := prepared.skipped + 1 + count, systemOnly } rest
        | .unfinished =>
          match ← expandUntil rest with
          | ([], rest) => return (found, rest)
          | (more, rest) => prepare fuel { prepared with words := prepared.words ++ more } rest

/-! ### Built-in commands and functions -/

/-- Runs a built-in command: its output is written at its end. -/
def runBuiltin (name : Bytes) (action : Action Nat) : Action Nat := do
  let before := (← self).command
  modifySelf fun p => { p with command := some name }
  let status ← try
      let status ← action
      let written ← flush
      if !written then complain (name ++ ": I/O error".toList)
      pure (if written then status else status ||| 1)
    catch halt =>
      let _ ← flush
      modifySelf fun p => { p with command := before }
      throw halt
  modifySelf fun p => { p with command := before }
  setStatus status
  return status

/-- The script file that a name stands for. -/
def findScript (name : Bytes) : Action Bytes := do
  if name.contains '/' then return name
  let s ← get
  let found := (pathEntries s.self.searchPath).findSome? fun entry =>
    let path := pathIn entry name
    match s.find path with
    | .ok (_, found) => if found.isFile then some path else none
    | .error _ => none
  match found with
  | some path => return path
  | none => fail (name ++ ": not found".toList)

/-- Carries out a built-in command. Some of them run commands themselves. -/
def performBuiltin (run : Runner) (tested : Bool) (b : Builtin) (name : Bytes) (arguments : List Bytes) :
    Action Nat :=
  match String.ofList name with
  | "eval" =>
    if arguments.isEmpty then return 0 else run (.text tested false (Bytes.join [' '] arguments))
  | "." => do
    match ← operands arguments with
    | [] => return 0
    | first :: _ => runFile run (← findScript first)
  | "exec" => do
    match arguments with
    | [] => return 0
    | program :: arguments =>
      let searchPath := (← self).searchPath
      let paths := if program.contains '/' then [program] else programPaths searchPath 0 program
      run (.program program paths arguments)
  | "command" => do
    let (found, rest) ← options "pvV" arguments
    let verbose := found.any (·.1 == 'V')
    let searchPath := if found.any (·.1 == 'p') then some systemPath else none
    match rest with
    | target :: _ =>
      if verbose || found.any (·.1 == 'v') then describe verbose searchPath target else return 0
    | [] => return 0
  | "type" => type_ arguments
  | "hash" => hash arguments
  | _ => b.run arguments

/-- How many functions may run, one in another. -/
def callLimit : Nat := 1000

/-- Calls a function. -/
def callFunction (run : Runner) (tested : Bool) (body : Command) (arguments : List Bytes) :
    Action Nat := do
  let before ← self
  if callLimit ≤ before.calls then
    fail ("Maximum function recursion depth (".toList ++ .ofNat callLimit ++ ") reached".toList)
  modifySelf fun p =>
    { p with arguments, optionIndex := 1, optionOffset := none, loops := 0, calls := p.calls + 1 }
  let restore : Action Unit := modifySelf fun p =>
    { p with
      arguments := before.arguments
      optionIndex := before.optionIndex
      optionOffset := before.optionOffset
      loops := before.loops
      calls := before.calls
      skip := if p.skip = .function then .none else p.skip }
  withFrame (ensuring (run (.command tested false body)) restore)

/-! ### Simple commands -/

/-- Carries out the assignments before a command; the assignments as texts. -/
def performAssignments (temporary exports : Bool) : List Word → Action (List Bytes)
  | [] => return []
  | word :: rest => do
    let text ← expandAssignment capture word
    match assignment? text with
    | some (name, value) =>
      if temporary then saveVariable name
      assignVariable name value (temporary || exports)
    | none => pure ()
    return text :: (← performAssignments temporary exports rest)

/-- Starts another process and waits for it. -/
def inProcess (task : Task) : Action Nat := do
  let process ← fork task id
  completeJob (← addJob [process])

/-- Carries out a program. With `last`, it takes the place of the process. -/
def performProgram (run : Runner) (last systemOnly : Bool) (name : Bytes) (arguments : List Bytes) :
    Action Nat := do
  let s ← get
  let found ← if name.contains '/' then pure (.ok [name])
    else if systemOnly then
      pure ((searchProgram s.view name none (pathEntries systemPath) 0 .notFound).map fun index =>
        programPaths systemPath index name)
    else do
      let found ← lookUp name
      pure (found.map fun index => programPaths s.self.searchPath index name)
  match found with
  | .ok paths =>
    let task : Task := .program name paths arguments
    if last && !s.self.hasTraps then run task else inProcess task
  | .error cause =>
    complainProgram name cause
    return 127

/-- Carries out a simple command. -/
def performSimple (run : Runner) (tested last : Bool) (line : Nat) (assignments words : List Word)
    (redirects : List Redirect) : Action Nat := do
  tick
  atLine line
  modifySelf fun p => { p with substituted := 0 }
  let (first, rest) ← expandUntil words
  let (prepared, rest) ← prepare 64 { words := first, meaning := .nothing } rest
  let assigns := match prepared.meaning with
    | .builtin b => b.assigns
    | _ => false
  let more ← rest.mapM fun word =>
    if assigns && word.isAssignment then do return [← expandAssignment capture word]
    else expandFields capture word
  let words := prepared.words ++ more.flatten
  let seen := words.drop prepared.skipped
  let temporary := match prepared.meaning with
    | .nothing => false
    | _ => !prepared.special
  let errorsBefore := (← self).descriptors.lookup 2
  let targets ← redirects.mapM (expandTarget capture)
  let body : Action Nat :=
    redirected capture targets prepared.stays fun possible => do
      if !possible then
        setStatus 2
        if prepared.special then throw .mistake
        return 2
      let exports := prepared.stays && 1 < seen.length
      let assigned ← performAssignments temporary exports assignments
      showCommand errorsBefore (assigned ++ words)
      match prepared.meaning, seen with
      | .builtin b, name :: arguments =>
        let status ← try runBuiltin name (performBuiltin run tested b name arguments)
          catch halt =>
            if halt = .mistake && !prepared.special then pure (← self).status else throw halt
        reap none
        return status
      | .function body, _ :: arguments =>
        let status ← callFunction run tested body arguments
        reap none
        return status
      | .program, name :: arguments => performProgram run last prepared.systemOnly name arguments
      | _, _ =>
        reap none
        return (← self).substituted
  let isScoped := match prepared.meaning with
    | .builtin b => b.special || !assignments.isEmpty
    | _ => !assignments.isEmpty
  if temporary && isScoped then withFrame body else body

end SinglePath.Shell
