/-
**Permissions in words.**

* `modeText` — the permissions of the owner, the group and all others in words.
* `applyMode?` — permissions after a change that is given in words.
-/

import SinglePath.Shell.Basic

namespace SinglePath.Shell

open Text (Bytes)

/-- All permissions. -/
def allPermissions : Nat := 511

/-- The permissions of the owner, the group and all others in words. -/
def modeText (permissions : Nat) : Bytes :=
  let letters (who : Char) (place : Nat) : Bytes :=
    let bits := permissions / place % 8
    [who, '='] ++ (if bits / 4 % 2 = 1 then ['r'] else []) ++ (if bits / 2 % 2 = 1 then ['w'] else []) ++
      (if bits % 2 = 1 then ['x'] else [])
  Bytes.join [','] [letters 'u' 64, letters 'g' 8, letters 'o' 1]

/-- Where the permissions of somebody stand among all; several letters stand for all they name. -/
def placesOf (who : Bytes) : Nat :=
  if who.isEmpty then 73
  else
    who.foldl
      (fun places c =>
        places ||| (match c with
          | 'u' => 64
          | 'g' => 8
          | 'o' => 1
          | _ => 73)) 0

/-- The permissions that a letter stands for. They may be those that somebody had at the start, or those
to execute if somebody had them. -/
def bitsOf? (start : Nat) : Char → Option Nat
  | 'r' => some 4
  | 'w' => some 2
  | 'x' => some 1
  | 'X' => some (if start &&& 73 = 0 then 0 else 1)
  | 's' => some 0
  | 'u' => some (start / 64 % 8)
  | 'g' => some (start / 8 % 8)
  | 'o' => some (start % 8)
  | _ => none

/-- Permissions after changes to those of somebody: each begins with a sign, and letters follow. -/
def applyChanges? (start places : Nat) : Nat → Nat → Bytes → Option Nat
  | 0, _, _ => none
  | _, permissions, [] => some permissions
  | fuel + 1, permissions, sign :: rest =>
    let letters := rest.takeWhile fun c => (bitsOf? start c).isSome
    let bits := places * letters.foldl (fun bits c => bits ||| (bitsOf? start c).getD 0) 0
    let changed := match sign with
      | '+' => some (permissions ||| bits)
      | '-' => some (permissions &&& (allPermissions ^^^ bits))
      | '=' => some ((permissions &&& (allPermissions ^^^ places * 7)) ||| bits)
      | _ => none
    match changed with
    | some permissions => applyChanges? start places fuel permissions (rest.drop letters.length)
    | none => none

/-- Permissions after one clause: for whom, and then at least one change. -/
def applyClause? (start permissions : Nat) (clause : Bytes) : Option Nat :=
  let who := clause.takeWhile "ugoa".toList.contains
  let changes := clause.drop who.length
  if changes.isEmpty then none
  else applyChanges? start (placesOf who) (changes.length + 1) permissions changes

/-- Permissions after a change that is given in words: clauses with commas between them, and maybe one
after them. -/
def applyMode? (start : Nat) (words : Bytes) : Option Nat :=
  let clauses := Bytes.divide ',' words
  let clauses := if clauses.getLast? = some [] then clauses.dropLast else clauses
  clauses.foldlM (applyClause? start) start

end SinglePath.Shell
