/-
**Reading from descriptors and writing to them.**

* `writeTo` — writes a text to a descriptor; whether that is possible. A full pipe is waited for, and one
  that nobody reads brings a signal.
* `takeLine`, `takeChunk`, `takeAll` — what a descriptor has to be read, up to the end of a line, up to some
  length, and up to its end.
* `complain`, `fail` — complaints in the words of the shell.
-/

import SinglePath.Shell.Machine

namespace SinglePath.Shell

open Text (Bytes)

/-! ### Writing -/

/-- Bytes over those at a position of some contents, after zeros if the position is past the end. -/
def overwrite (content : ByteArray) (position : Nat) (text : Bytes) : ByteArray :=
  if position = content.size then Bytes.addTo content text
  else
    let start := content.extract 0 position
    let filled := Bytes.addTo start (List.replicate (position - content.size) (Char.ofNat 0))
    let before := Bytes.addTo filled text
    before ++ content.extract before.size content.size

/-- Writes a text to the file at a place, from a position on. -/
def writeFile (number : Nat) (place : Files.Place) (position : Nat) (text : Bytes) : Action Unit := do
  modify fun s => { s with files := s.files.change place fun content => overwrite content position text }
  updateOpen number fun file => { file with position := position + text.length }

/-- Writes a text to a pipe, in at most `fuel` pieces; whether somebody reads it. -/
def writePipe (pipe : Nat) : Nat → Bytes → Action Bool
  | 0, _ => return true
  | fuel + 1, text => do
    let s ← get
    if text.isEmpty then return true
    else if !s.hasReader pipe then
      receive 13
      return false
    else
      let amount := if text.length ≤ pipeUnit then text.length
        else max 1 (min text.length (pipeCapacity - s.pipeSize pipe))
      if s.hasRoom pipe amount then
        modify fun s => { s with pipes := updateKey pipe (·.push (text.take amount)) s.pipes }
        writePipe pipe fuel (text.drop amount)
      else
        pause (.room pipe amount)
        writePipe pipe fuel text

/-- Writes a text to an open file; whether that is possible. -/
def writeOpen (number : Nat) (text : Bytes) : Action Bool := do
  let s ← get
  match s.openFiles.lookup number with
  | none => return false
  | some file =>
    if !file.writes then return false
    match file.channel with
    | .output =>
      modify fun s => { s with output := Bytes.addTo s.output text }
      return true
    | .errors =>
      modify fun s => { s with errors := Bytes.addTo s.errors text }
      return true
    | .device .full => return false
    | .device _ => return true
    | .directory _ | .source _ => return false
    | .sink pipe => writePipe pipe (2 * text.length + 2) text
    | .file place =>
      let position := if file.appends then (s.files.content place).size else file.position
      match (s.self.limits.get 'f').soft with
      | none =>
        writeFile number place position text
        return true
      | some limit =>
        let fitting := text.take (limit - position)
        if !fitting.isEmpty then writeFile number place position fitting
        if fitting.length = text.length then return true
        else
          receive 25
          return false

/-- Writes a text to a descriptor; whether that is possible. -/
def writeTo (descriptor : Nat) (text : Bytes) : Action Bool := do
  match (← self).descriptors.lookup descriptor with
  | some number => if text.isEmpty then return true else writeOpen number text
  | none => return false

/-- Adds to the output of a built-in command. -/
def print (text : Bytes) : Action Unit :=
  modifySelf fun p => { p with unwritten := text :: p.unwritten }

/-- Writes the output of a built-in command; whether that is possible. -/
def flush : Action Bool := do
  match (← self).unwritten with
  | [] => return true
  | texts =>
    modifySelf fun p => { p with unwritten := [] }
    let text := texts.reverse.flatten
    if text.isEmpty then return true else writeTo 1 text

/-! ### Complaints -/

/-- Writes a complaint as it stands. -/
def complainPlainly (message : Bytes) : Action Unit := do
  let _ ← writeTo 2 (message ++ ['\n'])

/-- Writes a complaint, with the script, the line and the command it comes from. -/
def complain (message : Bytes) : Action Unit := do
  let p ← self
  complainPlainly (p.name ++ ": ".toList ++ .ofNat p.line ++ ": ".toList ++
    p.command.elim [] (· ++ ": ".toList) ++ message)

/-- Complains and gives up the command, or the process. -/
def fail {α : Type} (message : Bytes) : Action α := do
  complain message
  modifySelf fun p => { p with status := 2 }
  throw .mistake

/-- Complains about a text that was read. -/
def failReading {α : Type} (e : SyntaxError) : Action α := do
  modifySelf fun p => { p with line := e.line }
  fail ("Syntax error: ".toList ++ .ofText e.message)

/-- Makes sure that there can be one more pipe. -/
def requirePipe : Action Unit := do
  if !(← self).mayOpenTwo then fail "Pipe call failed".toList

/-- The two ends of a new pipe, first the one where it is read. -/
def openPipe : Action (Nat × Nat) := do
  requirePipe
  addPipe

/-! ### Reading -/

/-- What reading gives. -/
inductive Taken where
  | text (text : Bytes)
  /-- There is nothing more. -/
  | ended
  /-- A signal with a trap came before there was anything. -/
  | interrupted

/-- How much of some contents is to be read from a position on: up to the end of a line if only a line is
wanted, and at most a given amount. -/
def lineEnd (content : ByteArray) : Nat → Nat → Nat
  | 0, position => position
  | fuel + 1, position =>
    if h : position < content.size then
      if content[position] = 10 then position + 1 else lineEnd content fuel (position + 1)
    else position

/-- The first characters of a text, up to the end of a line if only a line is wanted, at most so many; how
many they are, and what stands after them. The characters come reversed. -/
def cutLine (lineOnly : Bool) : Nat → Nat → Bytes → Bytes → Nat × Bytes × Bytes
  | 0, count, reversed, rest => (count, reversed, rest)
  | _, count, reversed, [] => (count, reversed, [])
  | fuel + 1, count, reversed, c :: rest =>
    if lineOnly && c == '\n' then (count + 1, c :: reversed, rest)
    else cutLine lineOnly fuel (count + 1) (c :: reversed) rest

/-- Takes what a descriptor has to be read: up to the end of a line if only a line is wanted, and at most a
given amount. An empty pipe that is still written to is waited for, at most `fuel` times. -/
def take (lineOnly interruptible : Bool) (descriptor amount : Nat) : Nat → Action Taken
  | 0 => return .ended
  | fuel + 1 => do
    let s ← get
    match s.openFile? descriptor with
    | none => return .ended
    | some (number, file) =>
      if !file.reads then return .ended
      match file.channel with
      | .file place =>
        let content := s.files.content place
        let stop := if lineOnly then lineEnd content amount file.position
          else min content.size (file.position + amount)
        if stop ≤ file.position then return .ended
        updateOpen number fun file => { file with position := stop }
        return .text (Bytes.ofArray content file.position stop)
      | .device .zeros | .device .full => return .text (List.replicate (min amount pipeUnit) (Char.ofNat 0))
      | .source pipe =>
        let content := ((s.pipes.lookup pipe).getD {}).settle
        if content.size = 0 then
          if !s.hasWriter pipe then return .ended
          else if interruptible && !s.self.pending.isEmpty then return .interrupted
          else
            pause (.input pipe interruptible)
            take lineOnly interruptible descriptor amount fuel
        else
          let (count, reversed, rest) := cutLine lineOnly amount 0 [] content.ready
          set { s with pipes := updateKey pipe (fun _ => content.drop count rest) s.pipes }
          return .text reversed.reverse
      | _ => return .ended

/-- How often a process waits for something to read before it gives up. -/
def readingPatience : Nat := 10000000

/-- How much of a script is read at once. -/
def chunkSize : Nat := 8192

/-- Takes what a descriptor has to be read, up to the end of a line. A line may come in several pieces. -/
def takeLine (descriptor : Nat) : Action Taken :=
  take true true descriptor pipeCapacity readingPatience

/-- Takes a piece of what a descriptor has to be read. -/
def takeChunk (descriptor : Nat) : Action Taken :=
  take false false descriptor chunkSize readingPatience

/-- Takes all that a descriptor has to be read, in at most `fuel` pieces; the latest comes first. -/
def takeAll (descriptor : Nat) : Nat → List Bytes → Action (List Bytes)
  | 0, pieces => return pieces
  | fuel + 1, pieces => do
    match ← take false false descriptor pipeCapacity readingPatience with
    | .text text => takeAll descriptor fuel (text :: pieces)
    | .ended | .interrupted => return pieces

end SinglePath.Shell
