/-
**Setting variables.**

* `assignVariable`, `unsetVariable` — give a variable a value, or take it away. Some variables have an effect
  of their own: one says where options are read next, another one where programs are looked for.
* `withFrame` — an action with variables of its own, which are put back afterwards.
-/

import SinglePath.Shell.Stream

namespace SinglePath.Shell

open Text (Bytes)

/-- Complains about an argument that should be a number. -/
def failNumber {α : Type} (argument : Bytes) : Action α :=
  fail ("Illegal number: ".toList ++ argument)

/-- A number that cannot be negative, as arguments of commands give it. -/
def numberArgument (argument : Bytes) : Action Nat :=
  match natural? argument with
  | some value => return value
  | none => failNumber argument

/-- Complains about the name of a variable. -/
def failName {α : Type} (name : Bytes) : Action α :=
  fail (name ++ ": bad variable name".toList)

/-- What setting a variable has for an effect of its own. -/
def noteValue (name : String) (value : Bytes) : Action Unit := do
  if name == "OPTIND" then
    let index ← numberArgument value
    modifySelf fun p => { p with optionIndex := max 1 index, optionOffset := none }
  else if name == "PATH" then
    modifySelf fun p => if p.known.isEmpty then p else { p with known := [] }

/-- Complains about a variable that must not change. -/
def failReadOnly {α : Type} (name : String) : Action α :=
  fail (name.toList ++ ": is read only".toList)

/-- Sets a variable, and maybe marks it for other programs. -/
def assignVariable (name : String) (value : Bytes) (exports : Bool := false) : Action Unit := do
  let p ← self
  let old := p.bindings[name]?.getD {}
  if old.readOnly then failReadOnly name
  noteValue name value
  let exported := old.exported || exports || p.has 'a'
  modifySelf fun p => p.bind name (some { old with value := some value, exported })

/-- Takes the value of a variable away, and its marks. -/
def unsetVariable (name : String) : Action Unit := do
  match (← self).bindings[name]? with
  | some old =>
    if old.readOnly then failReadOnly name
    noteValue name []
    modifySelf fun p => p.bind name none
  | none => return

/-- Remembers a variable, to be put back when the function ends. -/
def saveVariable (name : String) : Action Unit :=
  modifySelf fun p =>
    match p.frames with
    | frame :: rest => { p with frames := (.variable name p.bindings[name]? :: frame) :: rest }
    | [] => p

/-- Puts things back, and says which of them has no proper name. -/
def restoreAll : List Saved → Action (Option String)
  | [] => return none
  | saved :: rest => do
    modifySelf (·.restore saved)
    match saved with
    | .variable name (some before) => noteValue name (before.value.getD [])
    | _ => pure ()
    let found ← restoreAll rest
    return saved.improper?.or found

/-- Puts back what the innermost of the frames hold, so many of them. -/
def leaveFrames : Nat → Action Unit
  | 0 => return
  | count + 1 => do
    match (← self).frames with
    | frame :: rest =>
      modifySelf fun p => { p with frames := rest }
      match ← restoreAll frame with
      | some name => failName name.toList
      | none => leaveFrames count
    | [] => return

/-- Runs an action with variables of its own. If the action halts they stay, for whoever goes on after
that. -/
def withFrame {α : Type} (action : Action α) : Action α := do
  let depth := (← self).frames.length
  modifySelf fun p => { p with frames := [] :: p.frames }
  let result ← action
  leaveFrames ((← self).frames.length - depth)
  return result

end SinglePath.Shell
