/-
**Flag matrices: groups of alternatives, one of each group at a time.**

* `FlagMatrix.walk` — visits every configuration, the alternatives of an earlier group changing more
  slowly than those of a later one, and stops at the first visit that fails. A visit may keep state.
* `FlagMatrix.configurations` — all configurations in that order.
* `FlagMatrix.size` — how many there are: the product of the sizes of the groups.
* `FlagMatrix.wordSize` — the same product, computed in machine words.

Base flags come first in every configuration. A base flag or an alternative is split at blanks, so
it may stand for no flag, one flag or several.
-/

import SinglePath.Flags.Configuration
import SinglePath.Text.Blank

namespace SinglePath

/-- Groups of alternatives. -/
structure FlagMatrix where
  /-- The groups, each a list of alternatives. -/
  groups : List (List String)
  deriving DecidableEq, Repr, Inhabited

namespace FlagMatrix

/-- How many configurations there are. -/
def size (m : FlagMatrix) : Nat :=
  m.groups.foldl (fun product group => product * group.length) 1

/-- How many configurations there are, as a word of 64 bits: a product that does not fit wraps around. -/
def wordSize (m : FlagMatrix) : UInt64 :=
  m.groups.foldl (fun product group => product * UInt64.ofNat group.length) 1

/-- The flags that come first in every configuration. -/
def baseFlags (base : List String) : List String :=
  base.flatMap Text.fields

/-- The flag lists that extend `flags` by one alternative of each group. -/
def extensions (flags : List String) : List (List String) → List (List String)
  | [] => [flags]
  | group :: rest =>
    group.flatMap fun alternative => extensions (flags ++ Text.fields alternative) rest

/-- All configurations, earlier groups changing more slowly. -/
def configurations (m : FlagMatrix) (base : List String) (singlePathFlag : String) :
    List Configuration :=
  (extensions (baseFlags base) m.groups).map (Configuration.ofFlags singlePathFlag)

/-- Visits the flag lists that extend `flags` by one alternative of each group. -/
def visitExtensions {ε σ : Type} (visit : List String → EStateM ε σ Unit) (flags : List String) :
    List (List String) → EStateM ε σ Unit
  | [] => visit flags
  | group :: rest =>
    group.forM fun alternative => visitExtensions visit (flags ++ Text.fields alternative) rest

/-- Visits every configuration in order, up to the first visit that fails. -/
def walk {ε σ : Type} (m : FlagMatrix) (base : List String) (singlePathFlag : String)
    (visit : Configuration → EStateM ε σ Unit) : EStateM ε σ Unit :=
  visitExtensions (fun flags => visit (Configuration.ofFlags singlePathFlag flags))
    (baseFlags base) m.groups

end FlagMatrix

end SinglePath
