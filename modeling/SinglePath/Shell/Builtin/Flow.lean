/-
**Built-in commands that change the flow of a script.**

* `exit`, `loopControl`, `return_` — leave the process, loops, and a function.
* `trap` — sets what signals do.
-/

import SinglePath.Shell.Builtin.Options

namespace SinglePath.Shell

open Text (Bytes)

/-- Ends the process. Without a status it ends with the latest one; in a trap, with that before it. -/
def exit (arguments : List Bytes) : Action Nat := do
  match arguments with
  | [] => modifySelf fun p => { p with status := p.beforeTrap.getD p.status }
  | argument :: _ =>
    let status ← numberArgument argument
    modifySelf fun p => { p with status, beforeTrap := p.beforeTrap.map fun _ => status }
  throw .exit

/-- Leaves loops, or begins their next turn; outside of loops it does nothing. -/
def loopControl (skip : Nat → Skip) (arguments : List Bytes) : Action Nat := do
  let count ← match arguments with
    | [] => pure 1
    | argument :: _ =>
      let count ← numberArgument argument
      if count = 0 then failNumber argument
      pure count
  let running := (← self).loops
  if 0 < running then modifySelf fun p => { p with skip := skip (min count running) }
  return 0

/-- Leaves the function or the script file. -/
def return_ (arguments : List Bytes) : Action Nat := do
  let status ← match arguments with
    | [] => pure (← self).status
    | argument :: _ => numberArgument argument
  modifySelf fun p => { p with skip := .function }
  return status

/-- Sets what signals do, or lists it. -/
def trap (arguments : List Bytes) : Action Nat := do
  match ← operands arguments with
  | [] =>
    let traps := (← self).traps
    for signal in List.range (lastSignal + 1) do
      match traps.lookup signal with
      | some action =>
        print ("trap -- ".toList ++ quote action ++ [' '] ++ (signalName signal).toList ++ ['\n'])
      | none => pure ()
    return 0
  | first :: rest =>
    let (action, names) : Option Bytes × List Bytes :=
      if rest.isEmpty || (signalNumber? first).isSome then (none, first :: rest)
      else (if first = ['-'] then none else some first, rest)
    for name in names do
      match signal? true name with
      | some signal =>
        modifySelf fun p =>
          let others := p.traps.filter (·.1 ≠ signal)
          { p with traps := action.elim others fun action => (signal, action) :: others }
      | none =>
        complainPlainly ("trap: ".toList ++ name ++ ": bad trap".toList)
        return 1
    return 0

end SinglePath.Shell
