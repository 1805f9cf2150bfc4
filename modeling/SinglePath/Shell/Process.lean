/-
**Processes: what a running script knows.**

* `Variable`, `Job`, `Process` — a running script: its arguments, variables, functions, traps, jobs, and
  what its descriptors stand for.
* `Task` — something that a process carries out.
* `Process.forked` — what a new process has from the one that started it.
-/

import Std.Data.TreeMap
import SinglePath.Files.Tree
import SinglePath.Shell.Limit
import SinglePath.Shell.Script
import SinglePath.Shell.Signal

namespace SinglePath.Shell

open Text (Bytes)

/-- A variable. One without a value may still be marked. -/
structure Variable where
  value : Option Bytes := none
  /-- Whether other programs get it. -/
  exported : Bool := false
  readOnly : Bool := false

/-- What is to be put back when a function ends. -/
inductive Saved where
  | variable (name : String) (before : Option Variable)
  | options (before : List Char)

/-- What is left of commands that `break`, `continue` or `return` skip. -/
inductive Skip where
  | none
  /-- The innermost loops are left, as many as given. -/
  | loops (count : Nat)
  /-- The next turn of a loop begins, after those inside of it are left. -/
  | turn (count : Nat)
  /-- The function or the script file is left. -/
  | function
  deriving DecidableEq, Repr

/-- How a process ended. -/
inductive Ending where
  | exited (status : Nat)
  | killed (signal : Nat)
  deriving DecidableEq, Repr

/-- The status that a process leaves behind. -/
def Ending.status : Ending → Nat
  | .exited status => status
  | .killed signal => 128 + signal

/-- A process that a job consists of, and how it ended, if that is known. -/
structure JobMember where
  process : Nat
  ending : Option Ending := none

/-- Processes that were started together. -/
structure Job where
  index : Nat
  /-- The processes, each of which reads what the one before it writes. -/
  members : List JobMember
  /-- Whether its end was asked for, so that its index may be used again. -/
  waited : Bool := false

/-- Whether all processes of a job have ended. -/
def Job.isDone (job : Job) : Bool :=
  job.members.all (·.ending.isSome)

/-- The process whose end counts as that of the job. -/
def Job.last? (job : Job) : Option JobMember :=
  job.members.getLast?

/-- The status of a job that has ended. -/
def Job.status (job : Job) : Nat :=
  ((job.last?.bind JobMember.ending).map Ending.status).getD 0

/-- A program that was looked up. -/
structure Known where
  name : String
  /-- Which directory of the search path it is in. -/
  index : Nat
  /-- Whether it has to be looked up again, since the process went to another directory. -/
  stale : Bool := false

/-- A running script. -/
structure Process where
  /-- The number of the process. -/
  number : Nat
  /-- The number of the process that started it. -/
  parent : Nat
  /-- The number of the script that the process belongs to. -/
  script : Nat
  /-- What complaints begin with. -/
  name : Bytes
  arguments : List Bytes := []
  /-- Which argument `getopts` reads next, and where in the one before it goes on. -/
  optionIndex : Nat := 1
  optionOffset : Option Nat := none
  bindings : Std.TreeMap String Variable := {}
  functions : List (String × Command) := []
  aliases : List (String × Bytes) := []
  /-- The programs that were looked up, the latest last. -/
  known : List Known := []
  options : List Char := []
  /-- What signals do, by their numbers; zero stands for the end of the process. -/
  traps : List (Nat × Bytes) := []
  /-- Signals that do nothing, whatever is said about them. -/
  ignored : List Nat := []
  /-- Signals with a trap that has not run yet. -/
  pending : List Nat := []
  /-- The signal that ends the process as soon as it goes on. -/
  doom : Option Nat := none
  /-- Whether a signal has stopped the process. -/
  stopped : Bool := false
  /-- What the descriptors stand for. Those from ten on belong to the shell. -/
  descriptors : List (Nat × Nat) := []
  /-- For each command whose redirections are to be undone: what descriptors were moved, and where to. -/
  moved : List (List (Nat × Option Nat)) := []
  /-- The descriptors that scripts are read from. -/
  scripts : List Nat := []
  limits : Limits := usualLimits
  directory : Files.Place := Files.workingPlace
  /-- The path of the directory, as the process came to it. -/
  path : Bytes := Files.pathOf Files.workingPlace
  mask : Nat := 18
  /-- The status of the latest command. -/
  status : Nat := 0
  /-- The status of the latest command that output was taken from, in this simple command. -/
  substituted : Nat := 0
  /-- The line of the latest command. -/
  line : Nat := 1
  /-- The line that is being read. -/
  sourceLine : Nat := 1
  /-- The command that complains. -/
  command : Option Bytes := none
  /-- How many loops are running, one in another. -/
  loops : Nat := 0
  skip : Skip := .none
  /-- What is to be put back, for each function that runs, the innermost first. -/
  frames : List (List Saved) := []
  /-- How many functions are running, one in another. -/
  calls : Nat := 0
  background : Option Nat := none
  /-- The jobs, the latest first. -/
  jobs : List Job := []
  /-- The here-documents of the commands that were read. -/
  documents : List (Nat × Word) := []
  nextDocument : Nat := 0
  /-- Output of a built-in command that is not written yet, the latest first. -/
  unwritten : List Bytes := []
  /-- Whether a command is being shown, so that commands in between are not. -/
  showing : Bool := false
  /-- The status before the trap that runs. -/
  beforeTrap : Option Nat := none

/-- A redirection whose words are expanded, other than the text of a here-document. -/
inductive Target where
  | file (descriptor : Nat) (opening : Opening) (path : Bytes)
  /-- The same as another descriptor, or nothing. -/
  | duplicate (descriptor : Nat) (other : Option Nat)
  | document (descriptor : Nat) (word : Word)

/-- Something that a process carries out. With `tested`, its status decides about something, so that a
failure does not end a script that ends at failures. With `last`, the process has nothing else to do
after it. -/
inductive Task where
  | command (tested last : Bool) (c : Command)
  /-- The commands of a text. -/
  | text (tested last : Bool) (text : Bytes)
  /-- The commands that are read from a descriptor. -/
  | input (descriptor : Nat)
  /-- The shell itself, with its arguments. -/
  | shell (arguments : List Bytes)
  /-- A command with redirections, as all that a process does. -/
  | subshell (tested : Bool) (targets : List Target) (body : Command)
  /-- A program in the first of some files that can be executed. -/
  | program (name : Bytes) (paths : List Bytes) (arguments : List Bytes)

namespace Process

/-! ### Variables and options -/

/-- The value of a variable. -/
def lookup (p : Process) (name : String) : Option Bytes :=
  p.bindings[name]?.bind (·.value)

/-- Puts a variable in place, or takes it away. -/
def bind (p : Process) (name : String) (v : Option Variable) : Process :=
  { p with bindings := p.bindings.alter name fun _ => v }

/-- The characters that divide expansions into arguments. -/
def separators (p : Process) : Bytes :=
  (p.lookup "IFS").getD [' ', '\t', '\n']

/-- The directories in which programs are looked for. -/
def searchPath (p : Process) : Bytes :=
  (p.lookup "PATH").getD []

/-- Whether an option is set. -/
def has (p : Process) (option : Char) : Bool :=
  p.options.contains option

/-- Puts one thing back. -/
def restore (p : Process) : Saved → Process
  | .variable name before => p.bind name before
  | .options before => { p with options := before }

/-! ### Descriptors -/

/-- Lets a descriptor stand for an open file, or for nothing. -/
def direct (p : Process) (descriptor : Nat) (number : Option Nat) : Process :=
  let others := p.descriptors.eraseP (·.1 = descriptor)
  { p with descriptors := number.elim others fun number => (descriptor, number) :: others }

/-- The least descriptor from a number on that stands for nothing. -/
def freeDescriptor (p : Process) (start : Nat) : Nat :=
  let free := p.descriptors.foldl
    (fun free (descriptor, _) => if start ≤ descriptor then free.setIfInBounds (descriptor - start) false else free)
    (Array.replicate (p.descriptors.length + 1) true)
  start + (free.idxOf? true).getD 0

/-- How many descriptors there may be. -/
def descriptorLimit (p : Process) : Option Nat :=
  (p.limits.get 'n').soft

/-- Whether a process may have one more descriptor, at least the given one. -/
def mayOpen (p : Process) (start : Nat) : Bool :=
  p.descriptorLimit.all fun limit => p.freeDescriptor start < limit

/-- Whether a process may have two more descriptors. -/
def mayOpenTwo (p : Process) : Bool :=
  p.mayOpen (p.freeDescriptor 0 + 1)

/-! ### Signals -/

/-- Whether a trap waits for a signal, or for the end of the process. -/
def hasTraps (p : Process) : Bool :=
  p.traps.any fun (_, action) => !action.isEmpty

/-- The signals that do nothing to a process. -/
def isDeaf (p : Process) (signal : Nat) : Bool :=
  p.ignored.contains signal || p.traps.lookup signal == some []

/-- Takes a signal to a process. -/
def take (p : Process) (signal : Nat) : Process :=
  if signal = 9 then { p with doom := some 9, stopped := false }
  else
    let p := if signal = 18 then { p with stopped := false } else p
    if signal = 19 then { p with stopped := true }
    else if p.isDeaf signal then p
    else
      match p.traps.lookup signal with
      | some _ => if p.pending.contains signal then p else { p with pending := p.pending ++ [signal] }
      | none =>
        match effectOf signal with
        | .ends => { p with doom := some (p.doom.getD signal) }
        | .stops => { p with stopped := true }
        | .continues | .nothing => p

/-! ### Jobs -/

/-- The index that the next job gets. A job that has ended and that was asked for makes room. -/
def nextJob (p : Process) : Nat × List Job :=
  let isFree (i : Nat) : Bool := p.jobs.all fun job => job.index ≠ i || (job.isDone && job.waited)
  let index := ((List.range (p.jobs.length + 1)).find? fun i => isFree (i + 1)).getD p.jobs.length + 1
  (index, p.jobs.filter (·.index ≠ index))

/-- Notes how a process ended. -/
def settle (p : Process) (number : Nat) (ending : Ending) : Process :=
  let note (m : JobMember) : JobMember :=
    if m.process = number && m.ending.isNone then { m with ending := some ending } else m
  { p with jobs := p.jobs.map fun job => { job with members := job.members.map note } }

/-! ### New processes -/

/-- What a new process has from the one that started it. -/
def forked (p : Process) (number : Nat) : Process :=
  { p with
    number
    parent := p.number
    traps := p.traps.filter (·.2.isEmpty)
    pending := []
    doom := none
    stopped := false
    descriptors := p.descriptors.filter fun (descriptor, _) => !p.scripts.contains descriptor
    scripts := []
    moved := []
    jobs := []
    unwritten := []
    beforeTrap := none }

end Process

/-- The letters of the options. -/
def optionLetters : List Char :=
  "efIimnsxvVECabup".toList

/-- The directories of the programs that every system has. -/
def systemPath : Bytes :=
  "/usr/local/sbin:/usr/local/bin:/usr/sbin:/usr/bin:/sbin:/bin".toList

/-- The value of a parameter, where arguments are not kept apart. -/
def Process.value? (p : Process) : Parameter → Option Bytes
  | .named name => p.lookup name
  | .positional 0 => some p.name
  | .positional (index + 1) => p.arguments[index]?
  | .all | .joined =>
    let separator := match p.lookup "IFS" with
      | some separators => separators.take 1
      | none => [' ']
    some (Bytes.join separator p.arguments)
  | .count => some (.ofNat p.arguments.length)
  | .status => some (.ofNat p.status)
  | .process => some (.ofNat p.script)
  | .background => p.background.map Bytes.ofNat
  | .options => some (optionLetters.reverse.filter p.has)

/-- Something to be put back that has no proper name, and so cannot be taken away again. -/
def Saved.improper? : Saved → Option String
  | .variable name none => if isName name.toList then none else some name
  | _ => none

end SinglePath.Shell
