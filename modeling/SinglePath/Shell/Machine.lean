/-
**Processes that run side by side.**

* `OpenFile`, `Pipe` — what descriptors stand for: an open file with the position that all its users share,
  and bytes on their way from one process to another.
* `State` — the files, the open files and all processes, of which one runs now.
* `Action` — a part of a process's run. It may pause, for others to run in between, until what it waits for
  has come about.
* `fork` — starts another process, which begins to run when this one pauses.
* `send` — takes a signal to a process.
-/

import SinglePath.Shell.Process

namespace SinglePath.Shell

open Text (Bytes)

/-! ### Open files -/

/-- What an open file reads from and writes to. -/
inductive Channel where
  /-- The standard output of the tool. -/
  | output
  /-- The diagnostic output of the tool. -/
  | errors
  | device (d : Files.Device)
  | directory (place : Files.Place)
  | file (place : Files.Place)
  /-- The end of a pipe where it is read. -/
  | source (pipe : Nat)
  /-- The end of a pipe where it is written. -/
  | sink (pipe : Nat)
  deriving DecidableEq, Repr

/-- An open file. -/
structure OpenFile where
  channel : Channel
  position : Nat := 0
  reads : Bool := false
  writes : Bool := false
  appends : Bool := false

/-- Bytes that were written and are not read yet. -/
structure Pipe where
  /-- What is read next. -/
  ready : Bytes := []
  /-- What comes after that, the latest first. -/
  written : List Bytes := []
  size : Nat := 0

/-- How much may be on its way in a pipe. -/
def pipeCapacity : Nat := 65536

/-- How much is written to a pipe at once, or not at all. -/
def pipeUnit : Nat := 4096

/-- Puts a text into a pipe. -/
def Pipe.push (p : Pipe) (text : Bytes) : Pipe :=
  { p with written := text :: p.written, size := p.size + text.length }

/-- A pipe in which all that is to be read is ready. -/
def Pipe.settle (p : Pipe) : Pipe :=
  if p.written.isEmpty then p
  else { p with ready := p.ready ++ p.written.reverse.flatten, written := [] }

/-- A pipe with the first characters taken away. -/
def Pipe.drop (p : Pipe) (count : Nat) (rest : Bytes) : Pipe :=
  { p with ready := rest, size := p.size - count }

/-! ### States -/

/-- A process that has ended and of which the one that started it does not know yet. -/
structure Finished where
  parent : Nat
  process : Nat
  ending : Ending

/-- All processes, of which one runs now. -/
structure State where
  files : Files.Tree
  openFiles : List (Nat × OpenFile) := []
  nextOpen : Nat := 0
  pipes : List (Nat × Pipe) := []
  nextPipe : Nat := 0
  /-- The standard output. -/
  output : ByteArray := ByteArray.empty
  /-- The diagnostic output. -/
  errors : ByteArray := ByteArray.empty
  nextProcess : Nat := 1001
  /-- The other processes. -/
  others : List Process := []
  /-- Processes that have not begun to run, and what they are to carry out. -/
  starting : List (Process × Task) := []
  ended : List Finished := []
  /-- How many commands the process may carry out before others get their turn. -/
  turn : Nat := 0
  /-- The process that runs now. -/
  self : Process

/-- Why a process does not go on with its next command. -/
inductive Halt where
  /-- The process ends with its latest status. -/
  | exit
  /-- There was a mistake, about which a complaint was written. -/
  | mistake
  /-- The process has ended: a signal ended it, or another program that took its place. -/
  | ended (ending : Ending)
  /-- The process ran for too long. -/
  | exhausted
  deriving DecidableEq, Repr

/-- What a process waits for. -/
inductive Wait where
  /-- Its next turn. -/
  | turn
  /-- Something to read in a pipe, or its end. -/
  | input (pipe : Nat) (interruptible : Bool)
  /-- Some room in a pipe, or that nobody reads it any more. -/
  | room (pipe amount : Nat)
  /-- The end of a process that it started. -/
  | child (interruptible : Bool)
  deriving DecidableEq, Repr

/-- What has become of a part of a process's run. -/
inductive Outcome (α : Type) where
  | done (value : α) (s : State)
  | halted (halt : Halt) (s : State)
  /-- It goes on from a later state, when what it waits for has come about. -/
  | paused (on : Wait) (s : State) (resume : State → Outcome α)

/-- A part of a process's run. -/
def Action (α : Type) : Type :=
  State → Outcome α

namespace Outcome

/-- Goes on with a value. -/
def andThen {α β : Type} (f : α → Action β) : Outcome α → Outcome β
  | .done value s => f value s
  | .halted halt s => .halted halt s
  | .paused on s resume => .paused on s fun t => (resume t).andThen f

/-- Goes on after a halt. -/
def recover {α : Type} (handle : Halt → Action α) : Outcome α → Outcome α
  | .done value s => .done value s
  | .halted halt s => handle halt s
  | .paused on s resume => .paused on s fun t => (resume t).recover handle

end Outcome

namespace Action

/-- A value without a run. -/
@[always_inline, inline]
protected def pure {α : Type} (value : α) : Action α := fun s => .done value s

/-- One part of a run after another. -/
@[always_inline, inline]
protected def bind {α β : Type} (action : Action α) (f : α → Action β) : Action β := fun s =>
  match action s with
  | .done value s => f value s
  | .halted halt s => .halted halt s
  | .paused on s resume => .paused on s fun t => (resume t).andThen f

instance : Monad Action where
  pure := Action.pure
  bind := Action.bind

instance : MonadStateOf State Action where
  get := fun s => .done s s
  set s := fun _ => .done ⟨⟩ s
  modifyGet f := fun s =>
    let (value, s) := f s
    .done value s

instance : MonadExceptOf Halt Action where
  throw halt := fun s => .halted halt s
  tryCatch action handle := fun s =>
    match action s with
    | .done value s => .done value s
    | .halted halt s => handle halt s
    | .paused on s resume => .paused on s fun t => (resume t).recover handle

end Action

/-- Pauses until what is waited for has come about. -/
def pause (on : Wait) : Action Unit := fun s =>
  .paused on s fun t => .done () t

/-- The process that runs now. -/
@[inline]
def self : Action Process := fun s => .done s.self s

/-- Changes the process that runs now. -/
@[inline]
def modifySelf (change : Process → Process) : Action Unit := fun s =>
  .done () { s with self := change s.self }

/-- Runs an action and then another one, however the first one ends. -/
def ensuring {α : Type} (action : Action α) (cleanup : Action Unit) : Action α := do
  let result ← try action catch halt =>
    cleanup
    throw halt
  cleanup
  return result

namespace State

/-- Whether there are other processes that may want to run. -/
def isShared (s : State) : Bool :=
  !s.others.isEmpty || !s.starting.isEmpty

/-- All processes. -/
def processes (s : State) : List Process :=
  s.self :: s.others ++ s.starting.map Prod.fst

/-- A process by its number. -/
def process? (s : State) (number : Nat) : Option Process :=
  s.processes.find? (·.number = number)

/-- Changes a process. -/
def modifyProcess (s : State) (number : Nat) (change : Process → Process) : State :=
  let changed (p : Process) : Process := if p.number = number then change p else p
  { s with
    self := changed s.self
    others := s.others.map changed
    starting := s.starting.map fun (p, task) => (changed p, task) }

/-- The open file that a descriptor stands for. -/
def openFile? (s : State) (descriptor : Nat) : Option (Nat × OpenFile) := do
  let number ← s.self.descriptors.lookup descriptor
  let file ← s.openFiles.lookup number
  return (number, file)

/-- Whether somebody reads a pipe. -/
def hasReader (s : State) (pipe : Nat) : Bool :=
  s.openFiles.any fun (_, file) => file.channel = .source pipe

/-- Whether somebody may write to a pipe. -/
def hasWriter (s : State) (pipe : Nat) : Bool :=
  s.openFiles.any fun (_, file) => file.channel = .sink pipe

/-- How much is in a pipe. -/
def pipeSize (s : State) (pipe : Nat) : Nat :=
  (s.pipes.lookup pipe).elim 0 Pipe.size

/-- Whether a pipe has room for some more, or nobody reads it any more. -/
def hasRoom (s : State) (pipe amount : Nat) : Bool :=
  s.pipeSize pipe + amount ≤ pipeCapacity || !s.hasReader pipe

/-- Whether a descriptor stands for an open file. -/
def isUsed (s : State) (number : Nat) : Bool :=
  s.self.descriptors.any (·.2 = number) || s.others.any (·.descriptors.any (·.2 = number)) ||
    s.starting.any (·.1.descriptors.any (·.2 = number))

/-- Forgets an open file if no descriptor stands for it, and its pipe if nobody has that open. -/
def release (s : State) (number : Nat) : State :=
  if s.isUsed number then s
  else
    let s := { s with openFiles := s.openFiles.eraseP (·.1 = number) }
    if s.pipes.all fun (pipe, _) => s.hasReader pipe || s.hasWriter pipe then s
    else { s with pipes := s.pipes.filter fun (pipe, _) => s.hasReader pipe || s.hasWriter pipe }

/-- Forgets those of some open files that no descriptor stands for. -/
def releaseAll (s : State) (numbers : List Nat) : State :=
  numbers.foldl release s

end State

/-- Changes an entry of a list, the first one of its key. -/
def updateKey {α : Type} (key : Nat) (change : α → α) : List (Nat × α) → List (Nat × α)
  | [] => []
  | (k, value) :: rest =>
    if k == key then (k, change value) :: rest else (k, value) :: updateKey key change rest

/-- Adds an open file; the number by which descriptors know it. -/
def addOpen (file : OpenFile) : Action Nat := fun s =>
  .done s.nextOpen
    { s with openFiles := (s.nextOpen, file) :: s.openFiles, nextOpen := s.nextOpen + 1 }

/-- Changes an open file. -/
def updateOpen (number : Nat) (change : OpenFile → OpenFile) : Action Unit :=
  modify fun s => { s with openFiles := updateKey number change s.openFiles }

/-- Adds a pipe: the open files at its ends, first the one where it is read. -/
def addPipe : Action (Nat × Nat) := do
  let pipe := (← get).nextPipe
  modify fun s => { s with pipes := (pipe, {}) :: s.pipes, nextPipe := pipe + 1 }
  let source ← addOpen { channel := .source pipe, reads := true }
  let sink ← addOpen { channel := .sink pipe, writes := true }
  return (source, sink)

/-- Lets a descriptor stand for an open file, or for nothing. -/
def direct (descriptor : Nat) (number : Option Nat) : Action Unit :=
  modify fun s =>
    let before := s.self.descriptors.lookup descriptor
    let s := { s with self := s.self.direct descriptor number }
    before.elim s s.release

/-! ### Other processes -/

/-- Starts another process, which begins to run when this one pauses. It is like this one, but for some
changes. -/
def fork (task : Task) (change : Process → Process) : Action Nat := fun s =>
  let number := s.nextProcess
  let child := change (s.self.forked number)
  .done number { s with nextProcess := number + 1, starting := s.starting ++ [(child, task)] }

/-- How many commands a process carries out before others get their turn. -/
def turnLength : Nat := 40

/-- Counts a command, and lets others run if it is their turn. -/
def tick : Action Unit := do
  let s ← get
  if 0 < s.turn then set { s with turn := s.turn - 1 }
  else
    set { s with turn := turnLength }
    if s.isShared then pause .turn

/-- Takes a signal to the process that runs now. -/
def receive (signal : Nat) : Action Unit := do
  modifySelf (·.take signal)
  match (← self).doom with
  | some signal => throw (.ended (.killed signal))
  | none => if (← self).stopped then pause .turn

/-- The number of the process that started the tool. -/
def originNumber : Nat := 999

/-- Sends a signal; whether there is such a process. -/
def send (process signal : Nat) : Action Bool := do
  let s ← get
  if process = s.self.number then
    if signal ≠ 0 then receive signal
    return true
  else if (s.process? process).isSome then
    if signal ≠ 0 then set (s.modifyProcess process (·.take signal))
    return true
  else return process = 1 || process = originNumber || s.ended.any (·.process = process)

end SinglePath.Shell
