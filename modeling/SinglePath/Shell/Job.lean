/-
**Waiting for other processes.**

* `addJob` — takes note of processes that were started together.
* `reap` — takes note of processes that have ended.
* `completeJob` — waits for the end of a job; its status.
* `awaitJob`, `awaitAll` — wait for one job and for all of them, unless a signal with a trap comes first.
-/

import SinglePath.Shell.Stream

namespace SinglePath.Shell

open Text (Bytes)

/-- The processes started by the one that runs now that have ended, the oldest first. -/
def State.endedChildren (s : State) : List Finished :=
  (s.ended.filter (·.parent = s.self.number)).mergeSort fun x y => decide (x.process ≤ y.process)

/-- Whether processes run that the one that runs now has started. -/
def State.hasChildren (s : State) : Bool :=
  s.others.any (·.parent = s.self.number) || s.starting.any (·.1.parent = s.self.number)

/-- Takes note of processes that were started together; the index of their job. -/
def addJob (members : List Nat) : Action Nat := do
  let (index, others) := (← self).nextJob
  let job : Job := { index, members := members.map fun process => { process } }
  modifySelf fun p => { p with jobs := job :: others }
  return index

/-- Takes note of a process that has ended. If it belongs to the job that is waited for and a signal
ended it, there is a message. -/
def noteEnded (awaited : Option Nat) (finished : Finished) : Action Unit := do
  let isAwaited := (← self).jobs.any fun job =>
    some job.index = awaited && job.members.any (·.process = finished.process)
  modify fun s =>
    { s with
      ended := s.ended.filter (·.process ≠ finished.process)
      self := s.self.settle finished.process finished.ending }
  match finished.ending with
  | .killed signal => if isAwaited && !isQuiet signal then complainPlainly (endingText signal).toList
  | .exited _ => return

/-- Takes note of all processes that have ended. -/
def reap (awaited : Option Nat) : Action Unit := do
  if (← get).ended.isEmpty then return
  for finished in (← get).endedChildren do
    noteEnded awaited finished

/-- Whether a signal with a trap has come that does not only tell of the end of a process. -/
def Process.isCalled (p : Process) : Bool :=
  p.pending.any (· ≠ childSignal)

/-- Waits until a job has ended, or nothing is left to wait for; whether no signal came first. -/
def awaitJob (interruptible : Bool) (index : Nat) : Nat → Action Bool
  | 0 => return true
  | fuel + 1 => do
    reap (some index)
    let s ← get
    let isRunning := s.self.jobs.any fun job => job.index = index && !job.isDone
    if !isRunning then return true
    else if interruptible && !s.self.pending.isEmpty then return false
    else if !s.hasChildren then return true
    else
      pause (.child interruptible)
      let isCalled := (← self).isCalled
      if interruptible && isCalled then return false else awaitJob interruptible index fuel

/-- Waits for the end of a job, which is then forgotten; its status. -/
def completeJob (index : Nat) : Action Nat := do
  let _ ← awaitJob false index readingPatience
  let status := ((← self).jobs.find? (·.index = index)).elim 0 Job.status
  modifySelf fun p => { p with jobs := p.jobs.filter (·.index ≠ index) }
  return status

/-- The jobs, where those before the first one that still runs were asked for. -/
def askedFor : List Job → List Job
  | [] => []
  | job :: rest => if job.isDone then { job with waited := true } :: askedFor rest else job :: rest

/-- Waits until all jobs have ended; whether no signal came first. -/
def awaitAll : Nat → Action Bool
  | 0 => return true
  | fuel + 1 => do
    modifySelf fun p => { p with jobs := askedFor p.jobs }
    let s ← get
    if s.self.jobs.all Job.isDone then return true
    else if !s.endedChildren.isEmpty then
      reap none
      awaitAll fuel
    else if !s.self.pending.isEmpty then return false
    else if !s.hasChildren then return true
    else
      pause (.child true)
      if (← self).isCalled then return false else awaitAll fuel

end SinglePath.Shell
