/-
**Redirections: what descriptors stand for.**

* `expandTarget` — a redirection with its words expanded.
* `openFile` — opens a file for a descriptor, or says why that is not possible.
* `redirected` — an action with some descriptors redirected, which afterwards are put back. In between, what
  they stood for before goes by descriptors from ten on.
-/

import SinglePath.Shell.Expand

namespace SinglePath.Shell

open Text (Bytes)

/-- Expands the words of a redirection. -/
def expandTarget (capture : Option Command → Action Bytes) : Redirect → Action Target
  | .file descriptor opening word => return .file descriptor opening (← expandText capture word)
  | .duplicate descriptor word => do
    match ← expandText capture word with
    | ['-'] => return .duplicate descriptor none
    | text =>
      match text with
      | [digit] =>
        if digit.isDigit then return .duplicate descriptor (some (digit.toNat - '0'.toNat))
        else failReading ⟨(← self).sourceLine, "Bad fd number"⟩
      | _ => failReading ⟨(← self).sourceLine, "Bad fd number"⟩
  | .document descriptor index => do
    return .document descriptor (((← self).documents.lookup index).getD [])

/-! ### Opening files -/

/-- What a complaint about a file begins with. -/
def openingFault (opening : Opening) (path : Bytes) : Bytes :=
  "cannot ".toList ++ (if opening = .read then "open " else "create ").toList ++ path ++ ": ".toList

/-- Complains that a file cannot be opened. -/
def failOpening {α : Type} (opening : Opening) (path : Bytes) (cause : Files.FileError) : Action α :=
  let missing := if opening = .read then "No such file" else "Directory nonexistent"
  fail (openingFault opening path ++ (faultText missing cause).toList)

/-- An open file of a kind. -/
def OpenFile.ofKind (opening : Opening) (channel : Channel) : OpenFile :=
  { channel
    reads := opening = .read || opening = .readWrite
    writes := opening ≠ .read
    appends := opening = .append }

/-- Opens a text that is to be read. -/
def openText (text : Bytes) : Action Nat := do
  let pipe := (← get).nextPipe
  modify fun s => { s with pipes := (pipe, Pipe.push {} text) :: s.pipes, nextPipe := pipe + 1 }
  addOpen { channel := .source pipe, reads := true }

/-- Opens once more what an open file stands for. A pipe has one end to be read and one to be written. -/
def reopen (opening : Opening) (number : Nat) : Action OpenFile := do
  let channel := match (← get).openFiles.lookup number with
    | some { channel := .source pipe, .. } | some { channel := .sink pipe, .. } =>
      if opening = .read then .source pipe else .sink pipe
    | some { channel, .. } => channel
    | none => .device .nothing
  return .ofKind opening channel

/-- Opens what is there already. -/
def openEntry (opening : Opening) (path : Bytes) (place : Files.Place) : Files.Entry → Action Nat
  | .file content _ _ => do
    match (← get).live place with
    | some _ => openText (Bytes.ofArray content 0 content.size)
    | none => addOpen (.ofKind opening (.file place))
  | .directory => addOpen (.ofKind opening (.directory place))
  | .device .terminal => failOpening opening path .noDevice
  | .device d => addOpen (.ofKind opening (.device d))
  | .stream number => do addOpen (← reopen opening number)
  | .shell | .program | .link _ => addOpen (.ofKind opening (.device .nothing))

/-- Opens a file for reading. -/
def openForReading (path : Bytes) : Action Nat := do
  match (← get).find path with
  | .error cause => failOpening .read path cause
  | .ok (place, entry) => openEntry .read path place entry

/-- Opens a file for writing. It is made if there is none, and emptied if that is asked for. -/
def openForWriting (opening : Opening) (path : Bytes) : Action Nat := do
  let s ← get
  let view := s.view
  match view.target path with
  | .error cause => failOpening opening path cause
  | .ok place =>
    let entry? := view.at? place
    if opening = .write && s.self.has 'C' && entry?.any (·.isFile) then
      fail (openingFault opening path ++ "File exists".toList)
    match entry? with
    | some (.device d) => openEntry opening path place (.device d)
    | some (.stream number) => openEntry opening path place (.stream number)
    | _ =>
      match s.files.prepare place with
      | .error cause => failOpening opening path cause
      | .ok files =>
        let emptied := opening = .write || opening = .overwrite
        modify fun s =>
          { s with files := if emptied then files.change place fun _ => ByteArray.empty else files }
        addOpen (.ofKind opening (.file place))

/-- Lets the least descriptor that is free stand for an open file; the descriptor. -/
def place (number : Nat) : Action Nat := do
  let descriptor := (← self).freeDescriptor 0
  modifySelf (·.direct descriptor (some number))
  return descriptor

/-- Opens a file; the descriptor that stands for it. -/
def openFile (opening : Opening) (path : Bytes) : Action Nat := do
  if !(← self).mayOpen 0 then fail (openingFault opening path ++ "Too many open files".toList)
  place (← if opening = .read then openForReading path else openForWriting opening path)

/-! ### Moving descriptors -/

/-- The least descriptor of those that belong to the shell. -/
def firstOwn : Nat := 10

/-- Moves what a descriptor stands for to one that belongs to the shell; the latter. If that is not
possible the descriptor stands for nothing any more. -/
def moveUp (descriptor number : Nat) : Action Nat := do
  let p ← self
  if !p.mayOpen firstOwn then
    let isTooSmall := p.descriptorLimit.any (· ≤ firstOwn)
    direct descriptor none
    fail (.ofNat descriptor ++ ": ".toList ++
      (if isTooSmall then "Invalid argument" else "Too many open files").toList)
  let spot := p.freeDescriptor firstOwn
  modifySelf fun p => (p.direct spot (some number)).direct descriptor none
  return spot

/-- Notes where what a descriptor stood for was moved, if that is to be put back. -/
def noteMoved (descriptor : Nat) (spot : Option Nat) : Action Unit :=
  modifySelf fun p =>
    match p.moved with
    | frame :: rest => { p with moved := ((descriptor, spot) :: frame) :: rest }
    | [] => p

/-- Moves what a descriptor stands for out of the way, if that is to be put back and was not moved yet. A
descriptor that has just become what it is to be, `isNew`, stood for nothing before. -/
def moveAway (descriptor : Nat) (isNew : Bool) : Action Unit := do
  let p ← self
  match p.moved with
  | [] => return
  | frame :: _ =>
    if frame.any (·.1 = descriptor) then return
    match if isNew then none else p.descriptors.lookup descriptor with
    | none => noteMoved descriptor none
    | some number =>
      noteMoved descriptor (some (← moveUp descriptor number))

/-- Whether a process may have a descriptor. -/
def Process.mayHave (p : Process) (descriptor : Nat) : Bool :=
  p.descriptorLimit.all (descriptor < ·)

/-- Lets a descriptor, if there may be one, stand for what another one stands for, which is free then. -/
def moveTo (descriptor spot : Nat) : Action Unit := do
  moveAway descriptor (descriptor = spot)
  if descriptor ≠ spot then
    let p ← self
    if p.mayHave descriptor then direct descriptor (p.descriptors.lookup spot)
    direct spot none

/-- Carries out one redirection. -/
def redirect (capture : Option Command → Action Bytes) : Target → Action Unit
  | .file descriptor opening path => do moveTo descriptor (← openFile opening path)
  | .duplicate descriptor none => do
    moveAway descriptor false
    direct descriptor none
  | .duplicate descriptor (some other) => do
    if descriptor ≠ other then
      moveAway descriptor false
      let p ← self
      match if p.mayHave descriptor then p.descriptors.lookup other else none with
      | some number => direct descriptor (some number)
      | none => fail (.ofNat other ++ ": Bad file descriptor".toList)
  | .document descriptor word => do
    let text := joined (← expandRuns capture {} word)
    requirePipe
    moveTo descriptor (← place (← openText text))

/-- Carries out redirections; whether all of them are possible. -/
def redirectAll (capture : Option Command → Action Bytes) (targets : List Target) : Action Bool := do
  try
    for target in targets do
      redirect capture target
    return true
  catch halt =>
    if halt = .mistake then return false else throw halt

/-- Puts the descriptors that were moved last back, or forgets them. -/
def putBack (stays : Bool) : Action Unit := do
  modify fun s =>
    match s.self.moved with
    | [] => s
    | frame :: rest =>
      let change (p : Process) (entry : Nat × Option Nat) : Process :=
        match entry with
        | (descriptor, none) => if stays then p else p.direct descriptor none
        | (descriptor, some spot) =>
          let number := p.descriptors.lookup spot
          let p := p.direct spot none
          if stays then p else p.direct descriptor number
      let touched := frame.map Prod.fst ++ frame.filterMap Prod.snd
      let before := touched.filterMap fun descriptor => s.self.descriptors.lookup descriptor
      State.releaseAll { s with self := { frame.foldl change s.self with moved := rest } } before

/-- Runs an action with some descriptors redirected, if that is possible. Afterwards they are put back,
unless the redirections are to stay and the action comes to its end. -/
def redirected {α : Type} (capture : Option Command → Action Bytes) (targets : List Target)
    (stays : Bool) (action : Bool → Action α) : Action α := do
  if targets.isEmpty then action true
  else
    modifySelf fun p => { p with moved := [] :: p.moved }
    let result ← try (do action (← redirectAll capture targets)) catch halt =>
      putBack false
      throw halt
    putBack stays
    return result

end SinglePath.Shell
