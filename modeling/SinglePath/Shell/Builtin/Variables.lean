/-
**Built-in commands on variables.**

* `markVariables` — marks variables for other programs, or against changes.
* `unset`, `local_` — takes variables away, and gives a function some of its own.
-/

import SinglePath.Shell.Builtin.Options

namespace SinglePath.Shell

open Text (Bytes)

/-- Lists variables in the order of their names, each after a word. -/
def listVariables (word : Bytes) (shown : Variable → Bool) : Action Unit := do
  let marked := (← self).bindings.toList.filter fun (_, v) => shown v
  print (marked.flatMap fun (name, v) =>
    word ++ name.toList ++ v.value.elim [] (fun value => '=' :: quote value) ++ ['\n'])

/-- Marks variables; an argument may also give one a value. Without arguments the marked ones are
listed. -/
def markVariables (word : String) (isMarked : Variable → Bool) (mark : Variable → Variable)
    (arguments : List Bytes) : Action Nat := do
  let lists := match arguments with
    | ('-' :: 'p' :: _) :: _ => true
    | _ => false
  let names ← if lists then pure [] else operands arguments
  if names.isEmpty then
    listVariables word.toList isMarked
    return 0
  for argument in names do
    let name ← requireName argument
    match assignment? argument with
    | some (_, value) => assignVariable name value
    | none => pure ()
    modifySelf fun p => p.bind name (some (mark (p.bindings[name]?.getD {})))
  return 0

/-- Takes a function away. A program of its name has to be looked up again. -/
def Process.dropFunction (p : Process) (name : String) : Process :=
  if (p.functions.lookup name).isNone then p
  else { p with functions := p.functions.filter (·.1 ≠ name), known := p.known.filter (·.name ≠ name) }

/-- Takes variables or functions away. -/
def unset (arguments : List Bytes) : Action Nat := do
  let (found, names) ← options "vf" arguments
  let functions := (found.getLast?.map Prod.fst) = some 'f'
  for name in names do
    if functions then modifySelf (·.dropFunction (String.ofList name))
    else unsetVariable (← requireName name)
  return 0

/-- Gives a function or another command variables of its own. -/
def local_ (arguments : List Bytes) : Action Nat := do
  if (← self).frames.isEmpty then fail "not in a function".toList
  for argument in arguments do
    let name := argument.takeWhile (· ≠ '=')
    if argument = ['-'] then
      modifySelf fun p =>
        match p.frames with
        | frame :: rest => { p with frames := (.options p.options :: frame) :: rest }
        | [] => p
    else
      match argument.drop name.length with
      | _ :: value =>
        saveVariable (String.ofList name)
        assignVariable (String.ofList name) value
      | [] => saveVariable (← requireName name)
  return 0

end SinglePath.Shell
