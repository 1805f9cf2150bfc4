/-
**Carrying out commands.**

* `performPipeline`, `performLoop`, … — commands put together.
* `perform` — carries out a task, given how to carry out the tasks within it.
* `run` — carries out a task whose tasks within are nested at most so deep.

Every function here takes how to carry out tasks as an argument, so that the recursion between commands
stands in one place, in `run`.
-/

import SinglePath.Shell.Simple

namespace SinglePath.Shell

open Text (Bytes)

/-! ### Processes side by side -/

/-- Looks up the program of a command that is about to run in a process of its own, so that this process
knows it, too. -/
def lookAhead : Command → Action Unit
  | .simple _ _ (word :: _) _ => do
    match (Word.plain? word).filter isName with
    | some name =>
      let isProgram := match meaningOf (← self) true name with
        | .program => true
        | _ => false
      if isProgram then
        let _ ← lookUp name
    | none => return
  | _ => return

/-- Makes a new process one in the background: some signals do nothing to it. -/
def Process.inBackground (p : Process) : Process :=
  { p with ignored := 2 :: 3 :: p.ignored }

/-- An input that is empty. -/
def emptyInput : Action Nat :=
  addOpen { channel := .device .nothing, reads := true }

/-- Starts the processes of a pipeline, of which each reads what the one before it writes; their
numbers, the latest first. -/
def startPipeline (tested background : Bool) : Option Nat → List Command → List Nat → Action (List Nat)
  | _, [], started => return started
  | input, command :: rest, started => do
    lookAhead command
    let pipe ← if rest.isEmpty then pure none else some <$> openPipe
    let input ← if background && started.isEmpty then some <$> emptyInput else pure input
    let change (p : Process) : Process :=
      let p := if background then p.inBackground else p
      let p := input.elim p fun number => p.direct 0 (some number)
      pipe.elim p fun (_, sink) => p.direct 1 (some sink)
    let process ← fork (.command tested true command) change
    startPipeline tested background (pipe.map Prod.fst) rest (process :: started)

/-- Takes note of processes that nobody waits for. -/
def leaveJob (started : List Nat) : Action Nat := do
  let _ ← addJob started.reverse
  modifySelf fun p => { p with background := started.head? }
  return 0

/-- Runs commands of which each reads what the one before it writes. -/
def performPipeline (tested background : Bool) (items : List Command) : Action Nat := do
  let started ← startPipeline tested background none items []
  if background then leaveJob started else completeJob (← addJob started.reverse)

/-- Runs a command that nobody waits for. -/
def performBackground (line : Nat) (body : Command) : Action Nat := do
  let task ← match body with
    | .group line body redirects => do
      atLine line
      pure (Task.subshell false (← redirects.mapM (expandTarget capture)) body)
    | body => do
      atLine line
      pure (Task.command false true body)
  let input ← emptyInput
  leaveJob [← fork task fun p => p.inBackground.direct 0 (some input)]

/-- Runs a body with redirections as the last thing that a process does. -/
def performBody (run : Runner) (tested : Bool) (targets : List Target) (body : Command) :
    Action Nat := do
  modifySelf fun p => { p with moved := [] }
  for target in targets do
    redirect capture target
  run (.command tested true body)

/-! ### Loops and choices -/

/-- What follows one turn of a loop: whether there may be another one. -/
def afterTurn : Action Bool := do
  let p ← self
  match p.skip with
  | .none => return true
  | .function => return false
  | .loops count =>
    modifySelf fun p => { p with skip := if count ≤ 1 then .none else .loops (count - 1) }
    return false
  | .turn count =>
    modifySelf fun p => { p with skip := if count ≤ 1 then .none else .turn (count - 1) }
    return count ≤ 1

/-- Runs an action as a loop. -/
def inLoop (action : Action Nat) : Action Nat := do
  modifySelf fun p => { p with loops := p.loops + 1 }
  ensuring action (modifySelf fun p => { p with loops := p.loops - 1 })

/-- Repeats a body as long as a condition says so; the status of the latest turn. -/
def performLoop (run : Runner) (tested untilSuccess : Bool) (condition body : Command) :
    Nat → Nat → Action Nat
  | 0, _ => throw .exhausted
  | turns + 1, status => do
    let decision ← run (.command true false condition)
    let skipped := (← self).skip
    if skipped ≠ .none then
      let goesOn ← afterTurn
      let status := if skipped = .function then decision else status
      if goesOn then performLoop run tested untilSuccess condition body turns status else return status
    else if (decision = 0) = untilSuccess then return status
    else
      let status ← run (.command tested false body)
      if ← afterTurn then performLoop run tested untilSuccess condition body turns status
      else return status

/-- Runs a body for each of some values; the status of the latest turn. -/
def performFor (run : Runner) (tested : Bool) (name : String) (body : Command) :
    List Bytes → Nat → Action Nat
  | [], status => return status
  | value :: rest, _ => do
    assignVariable name value
    let status ← run (.command tested false body)
    if ← afterTurn then performFor run tested name body rest status else return status

/-- Whether one of some patterns matches a text; they are expanded as far as that needs. -/
def matchesOne (text : Bytes) : List Word → Action Bool
  | [] => return false
  | word :: rest => do
    if matchesAll (← expandPattern capture word) text then return true
    else matchesOne text rest

/-- Runs the body of the first case that matches a text. -/
def performSelect (run : Runner) (tested last : Bool) (text : Bytes) :
    List (List Word × Option Command) → Action Nat
  | [] => return 0
  | (patterns, body) :: rest => do
    if ← matchesOne text patterns then
      match body with
      | some body => run (.command tested last body)
      | none => return 0
    else performSelect run tested last text rest

/-- Runs commands one after another. -/
def performSequence (run : Runner) (tested last : Bool) : List Command → Nat → Action Nat
  | [], status => return status
  | command :: rest, _ => do
    let status ← run (.command tested (last && rest.isEmpty) command)
    if (← self).skip = .none then performSequence run tested last rest status else return status

/-! ### All commands -/

/-- Carries out a command; its status, and whether a failure may end the script. -/
def performCommand (run : Runner) (tested last : Bool) : Command → Action (Nat × Bool)
  | .simple line assignments words redirects => do
    return (← performSimple run tested last line assignments words redirects, true)
  | .sequence items => do return (← performSequence run tested last items 0, false)
  | .both first second => do
    let status ← run (.command true false first)
    if status ≠ 0 || (← self).skip ≠ .none then return (status, false)
    else return (← run (.command tested last second), false)
  | .either first second => do
    let status ← run (.command true false first)
    if status = 0 || (← self).skip ≠ .none then return (status, false)
    else return (← run (.command tested last second), false)
  | .negated body => do return (statusOf ((← run (.command true false body)) ≠ 0), false)
  | .pipeline background items => do return (← performPipeline tested background items, true)
  | .background line body => do return (← performBackground line body, true)
  | .forEach line name words body => do
    atLine line
    let values ← match words with
      | some words => do pure (← words.mapM (expandFields capture)).flatten
      | none => do pure (← self).arguments
    return (← inLoop (performFor run tested name body values 0), false)
  | .repeated untilSuccess condition body => do
    return (← inLoop (performLoop run tested untilSuccess condition body patience 0), false)
  | .branch condition accepted rejected => do
    let status ← run (.command true false condition)
    if (← self).skip ≠ .none then return (status, false)
    else if status = 0 then return (← run (.command tested last accepted), false)
    else
      match rejected with
      | some rejected => return (← run (.command tested last rejected), false)
      | none => return (0, false)
  | .select line word cases => do
    atLine line
    let text ← expandText capture word
    return (← performSelect run tested last text cases, false)
  | .group line body redirects => do
    atLine line
    let targets ← redirects.mapM (expandTarget capture)
    redirected capture targets false fun possible => do
      if possible then return (← run (.command tested false body), false) else return (2, true)
  | .subshell line body redirects => do
    atLine line
    let targets ← redirects.mapM (expandTarget capture)
    let task : Task := .subshell tested targets body
    let isOnly := last && !(← self).hasTraps
    return (← if isOnly then run task else inProcess task, true)
  | .define name body => do
    modifySelf fun p =>
      let p := p.dropFunction name
      { p with functions := (name, body) :: p.functions, known := p.known.filter (·.name ≠ name) }
    return (0, false)

/-- Carries out a task, given how to carry out the tasks within it. -/
def perform (run : Runner) : Task → Action Nat
  | .text tested last text => runText run tested last text
  | .input descriptor => runInput run descriptor
  | .shell arguments => runShell run arguments
  | .subshell tested targets body => performBody run tested targets body
  | .program name paths arguments => execute run name paths arguments
  | .command tested last c => do
    if (← self).has 'n' then return 0
    runTraps run
    let (status, decisive) ← performCommand run tested last c
    setStatus status
    runTraps run
    let p ← self
    if p.has 'e' && decisive && !tested && status ≠ 0 then
      setStatus status
      throw .exit
    return p.status

/-- Carries out a task whose tasks within are nested at most so deep. -/
def run : Nat → Task → Action Nat
  | 0, _ => throw .exhausted
  | depth + 1, task => perform (run depth) task

end SinglePath.Shell
