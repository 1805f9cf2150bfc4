/-
**Limits of processes.**

* `Resource` — something of which a process may have only so much.
* `Limits` — how much of each resource a process may have: a limit that counts, and one up to which that
  may be raised.
* `amount?` — a limit as it is written.
-/

import SinglePath.Shell.Basic

namespace SinglePath.Shell

open Text (Bytes)

/-- Something of which a process may have only so much. -/
structure Resource where
  letter : Char
  label : String
  /-- How much one unit is, as limits are written. -/
  unit : Nat

/-- The resources, in the order in which they are listed. -/
def resources : List Resource :=
  [⟨'t', "time(seconds)", 1⟩, ⟨'f', "file(blocks)", 512⟩, ⟨'d', "data(kbytes)", 1024⟩,
   ⟨'s', "stack(kbytes)", 1024⟩, ⟨'c', "coredump(blocks)", 512⟩, ⟨'m', "memory(kbytes)", 1024⟩,
   ⟨'l', "locked memory(kbytes)", 1024⟩, ⟨'p', "process", 1⟩, ⟨'n', "nofiles", 1⟩,
   ⟨'v', "vmemory(kbytes)", 1024⟩, ⟨'w', "locks", 1⟩, ⟨'r', "rtprio", 1⟩]

/-- The limits of one resource; none stands for no limit. -/
structure Limit where
  /-- The limit that counts. -/
  soft : Option Nat := none
  /-- The limit up to which the other one may be raised. -/
  hard : Option Nat := none
  deriving DecidableEq, Repr

/-- The limits of a process, by the letters of the resources. -/
abbrev Limits := List (Char × Limit)

/-- The limits that processes start with. -/
def usualLimits : Limits :=
  [('s', { soft := some 8388608 }), ('c', { soft := some 0 }),
   ('l', { soft := some 8388608, hard := some 8388608 }),
   ('n', { soft := some 1048576, hard := some 1048576 }), ('r', { soft := some 0, hard := some 0 })]

/-- The limits of a resource. -/
def Limits.get (limits : Limits) (letter : Char) : Limit :=
  (limits.lookup letter).getD {}

/-- Sets the limits of a resource. -/
def Limits.put (limits : Limits) (letter : Char) (limit : Limit) : Limits :=
  (letter, limit) :: limits.filter (·.1 ≠ letter)

/-- Whether a limit does not exceed another one. -/
def withinLimit (amount bound : Option Nat) : Bool :=
  match amount, bound with
  | _, none => true
  | none, some _ => false
  | some amount, some bound => amount ≤ bound

/-- The number above all limits. -/
def limitCount : Nat := 18446744073709551616

/-- A limit as it is written: in units of its resource, or in a word. A number wraps around, and the
greatest one stands for no limit. -/
def amount? (unit : Nat) (text : Bytes) : Option (Option Nat) :=
  if text = "unlimited".toList then some none
  else if text.all Char.isDigit then
    let amount := digitsValue 10 text * unit % limitCount
    some (if amount + 1 = limitCount then none else some amount)
  else none

/-- A limit in units of its resource. -/
def amountText (unit : Nat) : Option Nat → Bytes
  | none => "unlimited".toList
  | some amount => Bytes.ofNat (amount / unit)

end SinglePath.Shell
