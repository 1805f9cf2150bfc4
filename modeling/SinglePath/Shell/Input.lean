/-
**Texts with commands, which are carried out as they are read.**

* `Feed` — a text that is being read. More of it may come from a descriptor, and is taken from there only
  when the next command needs it.
* `runText`, `runInput`, `runFile` — carry out the commands of a text, of what a descriptor gives, and of a
  script file.
* `runShell` — the shell itself: options, then a command, a script or the input.
-/

import SinglePath.Shell.Builtin.Arguments
import SinglePath.Shell.Redirection
import SinglePath.Shell.Runner

namespace SinglePath.Shell

open Text (Bytes)

/-- A text that is being read. -/
structure Feed where
  source : Source := { rest := [] }
  /-- The descriptor that more of the text comes from. -/
  more : Option Nat := none
  /-- Whether the text may be shown while it is read. -/
  shown : Bool := false

/-- Shows text that was read, up to the end of its last line. -/
def showRead (before after : Bytes) : Action Unit := do
  let seen := before.take (before.length - after.length)
  let line := if seen.isEmpty || seen.getLast? = some '\n' then []
    else after.takeWhile (· ≠ '\n') ++ (after.dropWhile (· ≠ '\n')).take 1
  let _ ← writeTo 2 (seen ++ line)

/-- Reads the next command of a text, in at most `fuel` attempts: as long as the command may go on and
there is more of the text, it is read again. -/
def Feed.nextFrom : Nat → Option Nat → Feed → Action (Next × Feed)
  | 0, _, _ => throw .exhausted
  | fuel + 1, more, feed => do
    let p ← self
    let source := { feed.source with
      aliases := p.aliases
      documents := p.documents
      nextDocument := p.nextDocument
      starved := false }
    let result := Shell.next source
    let after := match result with
      | .ok _ after | .error _ after => after
    match more, after.starved with
    | some descriptor, true =>
      match ← takeChunk descriptor with
      | .text text =>
        Feed.nextFrom fuel more { feed with source := feed.source.extend (text.filter (· ≠ Char.ofNat 0)) }
      | .ended | .interrupted => Feed.nextFrom fuel none feed
    | _, _ =>
      if feed.shown && p.has 'v' then showRead source.remaining after.remaining
      modifySelf fun p => { p with sourceLine := after.line }
      match result with
      | .error e _ => failReading e
      | .ok found _ =>
        modifySelf fun p => { p with documents := after.documents, nextDocument := after.nextDocument }
        return (found, { feed with source := after })

/-- Reads the next command of a text. A text that has ended may have more for the command after it, since
commands can add to the file that they are read from. -/
def Feed.next (feed : Feed) : Action (Next × Feed) :=
  feed.nextFrom patience feed.more

/-- Whether a text was read to its end. -/
def Feed.isOver (feed : Feed) : Bool :=
  feed.source.pushed && feed.source.latest = .ending

/-- Carries out the commands of a text, at most so many; the status of the latest one. -/
def runThrough (run : Runner) (tested last : Bool) : Nat → Feed → Nat → Action Nat
  | 0, _, _ => throw .exhausted
  | turns + 1, feed, status => do
    let (found, feed) ← feed.next
    match found with
    | .ended => return status
    | .nothing => runThrough run tested last turns feed status
    | .command c =>
      let status ← run (.command tested (last && feed.isOver) c)
      if (← self).skip ≠ .none then return status
      else runThrough run tested last turns feed status

/-- Carries out the commands of a text that is to be read from its start. -/
def runFeed (run : Runner) (tested last : Bool) (feed : Feed) : Action Nat := do
  let before := (← self).sourceLine
  ensuring (runThrough run tested last patience feed 0)
    (modifySelf fun p => { p with sourceLine := before })

/-- Carries out the commands of a text. -/
def runText (run : Runner) (tested last : Bool) (text : Bytes) : Action Nat :=
  runFeed run tested last { source := { rest := text } }

/-- Carries out the commands that a descriptor gives. -/
def runInput (run : Runner) (descriptor : Nat) : Action Nat :=
  runFeed run false false { more := some descriptor, shown := true }

/-! ### Script files -/

/-- How many script files may be read, one in another. -/
def scriptLimit : Nat := 6500

/-- Opens a script file; the descriptor it is read from, which belongs to the shell. -/
def openScript (path : Bytes) : Action Nat := do
  if scriptLimit < (← self).scripts.length then throw .exhausted
  let opened ← openFile .read path
  let descriptor ← match (← self).descriptors.lookup opened with
    | some number => if opened < firstOwn then moveUp opened number else pure opened
    | none => pure opened
  modifySelf fun p => { p with scripts := descriptor :: p.scripts }
  return descriptor

/-- Closes a script file. -/
def closeScript (descriptor : Nat) : Action Unit := do
  modifySelf fun p => { p with scripts := p.scripts.erase descriptor }
  direct descriptor none

/-- Carries out the commands of a script file; to return from it ends it. -/
def runFile (run : Runner) (path : Bytes) : Action Nat := do
  let descriptor ← openScript path
  modifySelf fun p => { p with command := some path }
  let status ← ensuring (run (.input descriptor)) (closeScript descriptor)
  modifySelf fun p => { p with skip := if p.skip = .function then .none else p.skip }
  return status

/-- How often the end of the input is not taken for an answer. -/
def endPatience : Nat := 50

/-- Carries out all that a descriptor gives. If the end of the input is to be ignored there are complaints
about it, before it is the end after all. -/
def runMain (run : Runner) (descriptor : Nat) : Action Nat := do
  let status ← run (.input descriptor)
  if (← self).has 'I' then
    for _ in List.range endPatience do
      complainPlainly "\nUse \"exit\" to leave shell.".toList
  return status

/-- Runs the shell itself: options, then a command, a script or the input. -/
def runShell (run : Runner) (arguments : List Bytes) : Action Nat := do
  let result ← setOptions true (arguments.length + 1) { rest := arguments }
  let start : Action Unit := modifySelf fun p => { p with line := 1 }
  let fromInput := (← self).has 's'
  match result.hasCommand, result.rest with
  | true, [] => fail "-c requires an argument".toList
  | true, command :: rest =>
    match rest with
    | name :: rest => modifySelf fun p => { p with name, arguments := rest }
    | [] => pure ()
    refuseMonitor
    start
    let status ← run (.text false (!fromInput) command)
    if fromInput then runMain run 0 else return status
  | false, rest =>
    if fromInput || rest.isEmpty then
      modifySelf fun p =>
        { p with options := 's' :: p.options.filter (· ≠ 's'), arguments := rest }
      refuseMonitor
      start
      runMain run 0
    else
      let path := rest.headD []
      let descriptor ← openScript path
      modifySelf fun p => { p with name := path, arguments := rest.tail }
      refuseMonitor
      start
      runMain run descriptor

end SinglePath.Shell
