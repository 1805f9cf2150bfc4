/-
**Built-in commands on what names stand for.**

* `alias_`, `unalias` — aliases.
* `lookUp` — the program that a name stands for. The process remembers in which directory it found it.
* `hash` — looks programs up, or lists those that are known.
-/

import SinglePath.Shell.Builtin.Directory

namespace SinglePath.Shell

open Text (Bytes)

/-- Where a name stands in a table of some size, in which names that come to the same place stand in the
order in which they came. -/
def tableOrder (size : Nat) (name : String) : Nat :=
  let codes := name.toList.map Char.toNat
  (16 * codes.headD 0 + codes.foldl (· + ·) 0) % 32768 % size

/-! ### Aliases -/

/-- How large the table of aliases is. -/
def aliasTableSize : Nat := 39

/-- An alias as it can be read again. -/
def aliasText (name : String) (value : Bytes) : Bytes :=
  name.toList ++ '=' :: quote value ++ ['\n']

/-- Defines aliases or lists them. -/
def alias_ (arguments : List Bytes) : Action Nat := do
  if arguments.isEmpty then
    let order (entry : String × Bytes) : Nat := tableOrder aliasTableSize entry.1
    let sorted := (← self).aliases.reverse.mergeSort fun x y => decide (order x ≤ order y)
    print (sorted.flatMap fun (name, value) => aliasText name value)
    return 0
  let mut status := 0
  for argument in arguments do
    let name := argument.head?.toList ++ argument.tail.takeWhile (· ≠ '=')
    match argument.drop name.length with
    | _ :: value =>
      modifySelf fun p =>
        let key := String.ofList name
        if (p.aliases.lookup key).isSome then
          { p with aliases := p.aliases.map fun entry => if entry.1 = key then (key, value) else entry }
        else { p with aliases := (key, value) :: p.aliases }
    | [] =>
      match (← self).aliases.lookup (String.ofList name) with
      | some value => print (aliasText (String.ofList name) value)
      | none =>
        complainPlainly ("alias: ".toList ++ argument ++ " not found".toList)
        status := 1
  return status

/-- Takes aliases away. -/
def unalias (arguments : List Bytes) : Action Nat := do
  match arguments with
  | ('-' :: 'a' :: _) :: _ =>
    modifySelf fun p => { p with aliases := [] }
    return 0
  | _ => pure ()
  let mut status := 0
  for name in ← operands arguments do
    let key := String.ofList name
    if ((← self).aliases.lookup key).isSome then
      modifySelf fun p => { p with aliases := p.aliases.filter (·.1 ≠ key) }
    else
      complainPlainly ("unalias: ".toList ++ name ++ " not found".toList)
      status := 1
  return status

/-! ### Programs -/

/-- The directories of a search path. -/
def pathEntries (path : Bytes) : List Bytes :=
  Bytes.divide ':' path

/-- Looks for a program in directories from an index on; the index of the first that has it. An absolute
directory before the index where the program was before is passed over, and that one itself is trusted. -/
def searchProgram (view : Files.View) (name : Bytes) (before : Option Nat) :
    List Bytes → Nat → Files.FileError → Except Files.FileError Nat
  | [], _, cause => .error cause
  | entry :: rest, index, cause =>
    let path := pathIn entry name
    let next := searchProgram view name before rest (index + 1)
    if path.head? = some '/' && before.any (index ≤ ·) then
      if before = some index then .ok index else next cause
    else
      match view.find path with
      | .ok (_, entry) => if entry.isFile && entry.isExecutable then .ok index else next .permissionDenied
      | .error .notFound | .error .notDirectory => next cause
      | .error other => next other

/-- Forgets where a program is. -/
def forgetProgram (name : String) : Action Unit :=
  modifySelf fun p => { p with known := p.known.filter (·.name ≠ name) }

/-- Remembers in which directory a program is. -/
def rememberProgram (name : String) (index : Nat) : Action Unit :=
  modifySelf fun p =>
    if p.known.any (·.name = name) then
      { p with known := p.known.map fun known => if known.name = name then ⟨name, index, false⟩ else known }
    else { p with known := p.known ++ [⟨name, index, false⟩] }

/-- Looks up the program that a name stands for: in which directory of the search path it is, or why there
is none. -/
def lookUp (name : Bytes) : Action (Except Files.FileError Nat) := do
  let s ← get
  let key := String.ofList name
  let before := s.self.known.find? (·.name = key)
  match before with
  | some ⟨_, index, false⟩ => return .ok index
  | _ =>
    match searchProgram s.view name (before.map Known.index) (pathEntries s.self.searchPath) 0 .notFound with
    | .ok index =>
      rememberProgram key index
      return .ok index
    | .error cause =>
      if before.isSome then forgetProgram key
      return .error cause

/-- Complains about a program that cannot be executed. -/
def complainProgram (name : Bytes) (cause : Files.FileError) : Action Unit :=
  complain (name ++ ": ".toList ++ (faultText "not found" cause).toList)

/-- The paths by which a program may be executed that is in a directory of a search path: from there on,
in case it cannot be executed there. -/
def programPaths (searchPath : Bytes) (index : Nat) (name : Bytes) : List Bytes :=
  ((pathEntries searchPath).drop index).map (pathIn · name)

/-! ### What is known -/

/-- How large the table of programs is. -/
def programTableSize : Nat := 31

/-- Lists the programs that are known. -/
def listPrograms : Action Unit := do
  let p ← self
  let order (known : Known) : Nat := tableOrder programTableSize known.name
  let sorted := p.known.mergeSort fun x y => decide (order x ≤ order y)
  print (sorted.flatMap fun known =>
    (programPaths p.searchPath known.index known.name.toList).headD [] ++
      (if known.stale then ['*'] else []) ++ ['\n'])

end SinglePath.Shell
