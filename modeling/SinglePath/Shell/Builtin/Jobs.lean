/-
**Built-in commands on other processes.**

* `kill` — sends signals.
* `wait` — waits for jobs.
* `jobs`, `resumeJob` — list jobs, and would go on with them.
-/

import SinglePath.Shell.Builtin.Options
import SinglePath.Shell.Job

namespace SinglePath.Shell

open Text (Bytes)

/-! ### Jobs by their names -/

/-- The job that a text with a percent sign stands for. All jobs go by the same empty name, so a part of a
name finds one only if it is empty, too. -/
def findJob (text : Bytes) : Action Job := do
  let jobs := (← self).jobs
  let oneOf (complaint : String) (found : Option Job) : Action Job := do
    match found with
    | some job => return job
    | none => fail complaint.toList
  match text with
  | ['%'] | ['%', '%'] | ['%', '+'] => oneOf "No current job" jobs.head?
  | ['%', '-'] => oneOf "No previous job" jobs.tail.head?
  | ['%', '?'] =>
    match jobs with
    | [job] => return job
    | [] => fail ("No such job: ".toList ++ text)
    | _ => fail (text ++ ": ambiguous".toList)
  | '%' :: digits =>
    match if digits.all Char.isDigit then jobs.find? (·.index = digitsValue 10 digits) else none with
    | some job => return job
    | none => fail ("No such job: ".toList ++ text)
  | _ => fail ("No such job: ".toList ++ text)

/-- How a job is doing, in words. -/
def Job.text (job : Job) : Bytes :=
  if !job.isDone then "Running".toList
  else
    match job.last?.bind JobMember.ending with
    | some (.killed signal) => (endingText signal).toList
    | some (.exited 0) | none => "Done".toList
    | some (.exited status) => "Done(".toList ++ .ofNat status ++ [')']

/-- In which column the command of a job would stand. -/
def commandColumn : Nat := 33

/-- Lists a job. If it has ended it is forgotten. -/
def showJob (numbers leaderOnly : Bool) (job : Job) : Action Unit := do
  let p ← self
  let processes := job.members.map fun member => Bytes.ofNat member.process
  if leaderOnly then print (processes.headD [] ++ ['\n'])
  else
    let mark : Char :=
      if (p.jobs.head?.map Job.index) = some job.index then '+'
      else if (p.jobs.tail.head?.map Job.index) = some job.index then '-'
      else ' '
    let lead := '[' :: Bytes.ofNat job.index ++ "] ".toList ++ [mark, ' ']
    let gap (text : Bytes) : Bytes := text ++ List.replicate (max 1 (commandColumn - text.length)) ' '
    if numbers then
      let others := processes.tail.map fun process =>
        " |\n".toList ++ gap (List.replicate lead.length ' ' ++ process ++ [' '])
      print (gap (lead ++ processes.headD [] ++ [' '] ++ job.text) ++ others.flatten ++ ['\n'])
    else print (gap (lead ++ job.text) ++ (processes.tail.flatMap fun _ => " | ".toList) ++ ['\n'])
    if job.isDone then modifySelf fun p => { p with jobs := p.jobs.filter (·.index ≠ job.index) }

/-- Lists jobs. -/
def jobs (arguments : List Bytes) : Action Nat := do
  let (found, names) ← options "lp" arguments
  let mode := found.getLast?.map Prod.fst
  let show_ := showJob (mode = some 'l') (mode = some 'p')
  if names.isEmpty then
    reap none
    for job in (← self).jobs do
      show_ job
  else
    for name in names do
      show_ (← findJob name)
  return 0

/-- Would go on with jobs, which only a terminal can stop. -/
def resumeJob (arguments : List Bytes) : Action Nat := do
  let names ← operands arguments
  let _ ← findJob (names.headD ['%'])
  fail ("job ".toList ++ names.headD "(null)".toList ++ " not created under job control".toList)

/-! ### Signals -/

/-- How `kill` is used. -/
def killUsage : Bytes :=
  "Usage: kill [-s sigspec | -signum | -sigspec] [pid | job]... or\nkill -l [exitstatus]".toList

/-- Lists the names of signals, or names the one that ended a process. -/
def listSignals : List Bytes → Action Nat
  | [] => do
    print (("0" :: signalNames).flatMap fun name => name.toList ++ ['\n'])
    return 0
  | argument :: _ => do
    let number ← numberArgument argument
    let signal := if 128 < number then number - 128 else number
    if 0 < signal && signal ≤ lastSignal then
      print ((signalName signal).toList ++ ['\n'])
      return 0
    else fail ("invalid signal number or exit status: ".toList ++ argument)

/-- What `kill` is asked for: a signal, whether signals are to be listed, and the other arguments. -/
def killRequest (arguments : List Bytes) : Action (Option Nat × Bool × List Bytes) := do
  match arguments with
  | ('-' :: name) :: rest =>
    match signal? false name with
    | some signal => return (some signal, false, rest)
    | none =>
      let (found, rest) ← options "l" arguments "s"
      let signals ← (found.filter (·.1 == 's')).mapM fun (_, name) =>
        match signal? false name with
        | some signal => pure signal
        | none => fail ("invalid signal number or name: ".toList ++ name)
      return (signals.getLast?, found.any (·.1 == 'l'), rest)
  | _ => return (none, false, arguments)

/-- Sends a signal to processes. -/
def kill (arguments : List Bytes) : Action Nat := do
  if arguments.isEmpty then fail killUsage
  let (signal, lists, targets) ← killRequest arguments
  if lists then
    if signal.isSome && !targets.isEmpty then fail killUsage
    listSignals targets
  else if targets.isEmpty then fail killUsage
  else
    let mut status := 0
    for target in targets do
      -- A job and a negative number stand for groups of processes, of which there are none.
      let process? ← match target with
        | '%' :: _ => do
          let _ ← findJob target
          pure none
        | '-' :: digits => do
          let _ ← numberArgument digits
          pure none
        | _ => do pure (some (← numberArgument target))
      let found ← match process? with
        | some process => send process (signal.getD 15)
        | none => pure false
      if !found then
        complain "No such process\n".toList
        status := 1
    return status

/-! ### Waiting -/

/-- The status after a signal interrupted waiting. -/
def interruptedStatus : Action Nat := do
  return 128 + (← self).pending.getLast?.getD 0

/-- Waits for jobs, one after another; the status of the last one. -/
def waitFor : List Bytes → Nat → Action Nat
  | [], status => return status
  | target :: rest, status => do
    let job? ← match target with
      | '%' :: _ => do pure (some (← findJob target))
      | _ => do
        let number ← numberArgument target
        pure ((← self).jobs.find? fun job => (job.last?.map JobMember.process) = some number)
    match job? with
    | none => waitFor rest status
    | some job =>
      if ← awaitJob true job.index readingPatience then
        modifySelf fun p =>
          { p with
            jobs := p.jobs.map fun other =>
              if other.index = job.index then { other with waited := true } else other }
        let status := ((← self).jobs.find? (·.index = job.index)).elim 0 Job.status
        waitFor rest status
      else interruptedStatus

/-- Waits for jobs, or for all of them. -/
def wait (arguments : List Bytes) : Action Nat := do
  match ← operands arguments with
  | [] => if ← awaitAll readingPatience then return 0 else interruptedStatus
  | targets => waitFor targets 127

end SinglePath.Shell
