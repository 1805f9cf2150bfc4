/-
**Processes from their start to their end.**

* `Runner` — how to carry out tasks. Functions that carry out commands take it as an argument, so that the
  recursion between commands stands in one place.
* `runTraps` — runs the traps of the signals that came.
* `finish` — runs a process to its end, and then what it asked for at its end.
* `capture` — the output of a command, which runs in a process of its own.
-/

import SinglePath.Shell.Job

namespace SinglePath.Shell

open Text (Bytes)

/-- How to carry out tasks; the status of each. -/
abbrev Runner := Task → Action Nat

/-- Sets the status of the latest command. -/
def setStatus (status : Nat) : Action Unit :=
  modifySelf fun p => { p with status }

/-- Notes the line of a command. -/
def atLine (line : Nat) : Action Unit :=
  modifySelf fun p => { p with line }

/-- How many turns a loop may take. -/
def patience : Nat := 100000000

/-! ### Traps and the ends of processes -/

/-- Runs the traps of some signals. The status stays as it was, unless a trap leaves a function. While
commands are being skipped, signals have to wait. -/
def runPending (run : Runner) (status : Nat) : List Nat → Action Unit
  | [] => return
  | signal :: rest => do
    let p ← self
    if p.skip ≠ .none then modifySelf fun p => { p with pending := p.pending ++ signal :: rest }
    else
      match p.traps.lookup signal with
      | some action =>
        let _ ← run (.text false false action)
        modifySelf fun p => if p.skip = .function then p else { p with status }
      | none => pure ()
      runPending run status rest

/-- Runs the traps of the signals that came, those with lower numbers first. -/
def runTraps (run : Runner) : Action Unit := do
  let p ← self
  if p.pending.isEmpty then return
  let status := p.beforeTrap.getD p.status
  modifySelf fun p => { p with pending := [], beforeTrap := some status }
  runPending run status (p.pending.mergeSort fun x y => decide (x ≤ y))
  modifySelf fun q => { q with beforeTrap := p.beforeTrap }

/-- The signal that ends a process which nests its commands too deep. -/
def overflowSignal : Nat := 11

/-- Runs an action to the end of the process. -/
def endingOf (action : Action Nat) : Action Ending := do
  try
    let status ← action
    setStatus status
    return .exited status
  catch halt =>
    match halt with
    | .exit | .mistake => return .exited (← self).status
    | .ended ending => return ending
    | .exhausted => return .killed overflowSignal

/-- Runs a process to its end, and then what it asked for at its end. -/
def finish (run : Runner) (body : Action Nat) : Action Ending := do
  match ← endingOf body with
  | .killed signal => return .killed signal
  | .exited status =>
    match (← self).traps.lookup 0 with
    | some (c :: action) =>
      modifySelf fun p =>
        { p with
          traps := p.traps.filter (·.1 ≠ 0)
          skip := .none
          beforeTrap := some status
          status }
      endingOf do
        let _ ← run (.text false false (c :: action))
        return status
    | _ => return .exited status

/-! ### The output of commands -/

/-- The output of a command, without the newlines at its end. -/
def capture (body : Option Command) : Action Bytes := do
  match body with
  | none => return []
  | some body =>
    let (source, sink) ← openPipe
    let reading := (← self).freeDescriptor 0
    modifySelf (·.direct reading (some source))
    let process ← fork (.command false true body) fun child =>
      (child.direct reading none).direct 1 (some sink)
    let index ← addJob [process]
    let pieces ← takeAll reading readingPatience []
    direct reading none
    let status ← completeJob index
    modifySelf fun p => { p with substituted := status }
    let text := pieces.reverse.flatten
    return ((text.filter (· ≠ Char.ofNat 0)).reverse.dropWhile (· == '\n')).reverse

end SinglePath.Shell
