/-
**Built-in commands on what a process may do.**

* `umask` — the permissions that new files do not get.
* `ulimit` — how much of each resource a process may have.
-/

import SinglePath.Shell.Builtin.Options
import SinglePath.Shell.Mode

namespace SinglePath.Shell

open Text (Bytes)

/-! ### Permissions -/

/-- The mask that an argument stands for: octal digits, or a change to the permissions in words. -/
def maskOf (mask : Nat) (argument : Bytes) : Action Nat := do
  if argument.head?.any Char.isDigit then
    if argument.all fun c => (digit? 8 c).isSome then return digitsValue 8 argument % (allPermissions + 1)
    else failNumber argument
  else
    match applyMode? (allPermissions ^^^ mask) argument with
    | some permissions => return allPermissions ^^^ permissions
    | none => fail ("Illegal mode: ".toList ++ argument)

/-- Shows or sets the permissions that new files do not get. -/
def umask (arguments : List Bytes) : Action Nat := do
  let (found, rest) ← options "S" arguments
  let mask := (← self).mask
  match rest with
  | [] =>
    if found.isEmpty then
      let digits := Nat.toDigits 8 mask
      print (List.replicate (4 - digits.length) '0' ++ digits ++ ['\n'])
    else print (modeText (allPermissions ^^^ mask) ++ ['\n'])
  | argument :: _ =>
    let mask ← maskOf mask argument
    modifySelf fun p => { p with mask }
  return 0

/-! ### Resources -/

/-- Which limits of a resource are meant. -/
inductive LimitChoice where
  | both
  | soft
  | hard
  deriving DecidableEq, Repr

/-- The limit that is shown: the one that counts, unless the other one is meant. -/
def LimitChoice.shown (choice : LimitChoice) (limit : Limit) : Option Nat :=
  if choice = .hard then limit.hard else limit.soft

/-- The limits with those that are meant set to an amount. -/
def LimitChoice.apply (choice : LimitChoice) (limit : Limit) (amount : Option Nat) : Limit :=
  { soft := if choice = .hard then limit.soft else amount
    hard := if choice = .soft then limit.hard else amount }

/-- How wide the labels of resources are. -/
def labelWidth : Nat := 20

/-- Sets the limits of a resource. -/
def setLimit (resource : Resource) (choice : LimitChoice) (text : Bytes) : Action Unit := do
  match amount? resource.unit text with
  | none => fail "bad number".toList
  | some amount =>
    let before := (← self).limits.get resource.letter
    let after := choice.apply before amount
    let refuse (cause : String) : Action Unit :=
      fail ("error setting limit (".toList ++ cause.toList ++ [')'])
    if !withinLimit after.soft after.hard then refuse "Invalid argument"
    else if !withinLimit after.hard before.hard then refuse "Operation not permitted"
    else modifySelf fun p => { p with limits := p.limits.put resource.letter after }

/-- Shows or sets how much of a resource a process may have. -/
def ulimit (arguments : List Bytes) : Action Nat := do
  let letters := String.ofList (resources.map Resource.letter)
  let (found, rest) ← options ("HSa" ++ letters) arguments
  let choice := found.foldl
    (fun choice (c, _) => if c == 'H' then .hard else if c == 'S' then .soft else choice) LimitChoice.both
  let all := found.any (·.1 == 'a')
  let letter := ((found.filter fun (c, _) => !"HSa".toList.contains c).getLast?.map Prod.fst).getD 'f'
  let p ← self
  let text (resource : Resource) : Bytes :=
    amountText resource.unit (choice.shown (p.limits.get resource.letter)) ++ ['\n']
  if !rest.isEmpty && (all || 1 < rest.length) then fail "too many arguments".toList
  if all then
    for resource in resources do
      let label := resource.label.toList
      print (label ++ List.replicate (labelWidth - label.length) ' ' ++ ' ' :: text resource)
  else
    match resources.find? (·.letter == letter), rest with
    | some resource, [] => print (text resource)
    | some resource, argument :: _ => setLimit resource choice argument
    | none, _ => pure ()
  return 0

end SinglePath.Shell
