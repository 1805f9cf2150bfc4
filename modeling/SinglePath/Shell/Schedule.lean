/-
**Running processes side by side.**

* `Thread` — what is left to do of a process that has paused.
* `State.isReady` — whether what a process waits for has come about.
* `turns` — lets the processes run by turns, until the tool has ended and nobody can write to its outputs.
* `launch` — runs the shell with some arguments as a tool.
-/

import SinglePath.Shell.Evaluate

namespace SinglePath.Shell

open Text (Bytes)

/-- What is left to do of a process that has paused. -/
structure Thread where
  process : Nat
  on : Wait
  resume : State → Outcome Ending

/-- How deep tasks may be nested. -/
def taskDepth : Nat := 28000

/-- A process that has not begun to run. -/
def Thread.ofTask (process : Nat) (task : Task) : Thread :=
  { process
    on := .turn
    resume := finish (run taskDepth) (run taskDepth task) }

namespace State

/-- Whether what a process waits for has come about. -/
def isOver (s : State) (p : Process) : Wait → Bool
  | .turn => true
  | .input pipe interruptible =>
    0 < s.pipeSize pipe || !s.hasWriter pipe || (interruptible && !p.pending.isEmpty)
  | .room pipe amount => s.hasRoom pipe amount
  | .child interruptible =>
    s.ended.any (·.parent = p.number) || (interruptible && !p.pending.isEmpty) ||
      !(s.others.any (·.parent = p.number) || s.starting.any (·.1.parent = p.number) ||
        s.self.parent = p.number)

/-- Whether a process can go on, or is to end. -/
def isReady (s : State) (thread : Thread) : Bool :=
  match s.process? thread.process with
  | some p => p.doom.isSome || (!p.stopped && s.isOver p thread.on)
  | none => false

/-- Lets another process be the one that runs now. -/
def switchTo (s : State) (number : Nat) : State :=
  let s := { s with turn := turnLength }
  if s.self.number = number then s
  else
    match s.others.find? (·.number = number) with
    | some p => { s with self := p, others := s.self :: s.others.filter (·.number ≠ number) }
    | none => s

/-- Forgets the process that runs now, which has ended, and lets another one be the one that runs now. -/
def leaveTo (s : State) (number : Nat) : State :=
  match s.others.find? (·.number = number) with
  | some p => { s with self := p, others := s.others.filter (·.number ≠ number), turn := turnLength }
  | none => s

/-- The state after the process that runs now has ended. Its descriptors stand for nothing any more, and
the one that started it is told. -/
def afterEnd (s : State) (ending : Ending) : State :=
  let number := s.self.number
  let parent := s.self.parent
  let numbers := s.self.descriptors.map Prod.snd
  let orphan (p : Process) : Process := if p.parent = number then { p with parent := 1 } else p
  let s := { s with
    self := { s.self with descriptors := [] }
    others := s.others.map orphan
    starting := s.starting.map fun (p, task) => (orphan p, task)
    ended := s.ended.filter (·.parent ≠ number) }
  let s := if s.others.any (·.number = parent) then
      { s with
        ended := s.ended ++ [⟨parent, number, ending⟩]
        others := s.others.map fun p => if p.number = parent then p.take childSignal else p }
    else s
  s.releaseAll numbers

/-- Whether somebody can write to the outputs of the tool. -/
def hasOutput (s : State) : Bool :=
  s.openFiles.any fun (_, file) => file.channel = .output || file.channel = .errors

end State

/-- How a process ended, as the one that started it sees it: only a part of the status counts. -/
def Ending.seen : Ending → Ending
  | .exited status => .exited (status % 256)
  | .killed signal => .killed signal

/-- The processes under way, and how the tool ended, if it has. -/
structure Progress where
  state : State
  threads : List Thread
  ending : Option Ending := none
  /-- Whether the process that ran last has ended. -/
  left : Bool := false

/-- The number of the tool's process. -/
def toolNumber : Nat := 1000

/-- Lets the processes that were started begin. -/
def Progress.begin (p : Progress) : Progress :=
  let s := p.state
  { p with
    state := { s with starting := [], others := s.others ++ s.starting.map Prod.fst }
    threads := p.threads ++ s.starting.map fun (child, task) => Thread.ofTask child.number task }

/-- Takes note of how far a process has come, given the others and how the tool ended. -/
def Progress.after (threads : List Thread) (ending : Option Ending) (process : Nat) :
    Outcome Ending → Progress
  | .paused on state resume => { state, threads := threads ++ [⟨process, on, resume⟩], ending }
  | .done found state => ended found.seen state
  | .halted _ state => ended (.killed overflowSignal) state
where
  /-- Takes note of the end of a process. -/
  ended (found : Ending) (state : State) : Progress :=
    { state := state.afterEnd found
      threads
      ending := if process = toolNumber then some found else ending
      left := true }

/-- Lets the first process that can go on do so; an error if there is none. -/
def Progress.step (p : Progress) : Except Progress Progress :=
  match p.begin with
  | ⟨state, threads, ending, left⟩ =>
    match threads.find? state.isReady with
    | none => .error ⟨state, threads, ending, left⟩
    | some thread =>
      let others := threads.filter (·.process ≠ thread.process)
      let state := if left then state.leaveTo thread.process else state.switchTo thread.process
      match state.self.doom with
      | some signal => .ok (.after others ending thread.process (.done (.killed signal) state))
      | none => .ok (.after others ending thread.process (thread.resume state))

/-- Whether the tool has ended and nobody can write to its outputs. -/
def Progress.isLate (p : Progress) : Bool :=
  p.ending.isSome && !p.state.hasOutput

/-- How many turns processes get after the tool has ended and nobody can write to its outputs. -/
def lateTurns : Nat := 100000

/-- Lets the processes run by turns, until the tool has ended and nobody can write to its outputs; others
may then go on for a while. -/
def turns : Nat → Nat → Progress → Progress
  | 0, _, p => p
  | fuel + 1, late, p =>
    let isLate := p.isLate
    if isLate && late = 0 then p
    else
      match p.step with
      | .ok next => turns fuel (if isLate then late - 1 else late) next
      | .error stuck => stuck

/-- How a program ended, what it wrote, and the files after it. -/
structure Ended where
  files : Files.Tree
  /-- The exit code, unless a signal ended the program. -/
  exitCode : Option Nat
  output : List UInt8
  errors : List UInt8

/-- The state in which a tool starts, among files and with some variables given. -/
def startState (files : Files.Tree) (bindings : List (String × String)) (name : Bytes) : State :=
  let given := bindings.map fun (name, value) =>
    (name, { value := some (Bytes.ofText value), exported := true : Variable })
  { files := { files with age := files.age + 1 }
    openFiles :=
      [(0, { channel := .device .nothing, reads := true }), (1, { channel := .output, writes := true }),
       (2, { channel := .errors, writes := true })]
    nextOpen := 3
    nextProcess := toolNumber + 1
    turn := turnLength
    self :=
      { number := toolNumber
        parent := originNumber
        script := toolNumber
        name
        bindings := startVariables given originNumber (Files.pathOf Files.workingPlace)
        descriptors := [(0, 0), (1, 1), (2, 2)]
        line := 0 } }

/-- Runs the shell with some arguments as a tool, among files and with some variables given. -/
def launch (files : Files.Tree) (bindings : List (String × String)) (invocation : List Bytes) : Ended :=
  let state := startState files bindings (invocation.headD [])
  let start : Progress :=
    { state, threads := [Thread.ofTask toolNumber (.shell invocation.tail)] }
  let p := turns patience lateTurns start
  let exitCode := match p.ending with
    | some (.exited status) => some status
    | _ => none
  ⟨p.state.files, exitCode, p.state.output.toList, p.state.errors.toList⟩

end SinglePath.Shell
