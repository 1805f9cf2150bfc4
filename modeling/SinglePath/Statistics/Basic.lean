/-
**Statistics of one execution, in the form in which executions are compared.**

* `Statistic` — one counted fact: the fetches of an instruction, the cycles of the run, or the calls
  of a function.
* `Statistics.text` — one line per fact, in the order of the report. Two executions are equivalent
  when these texts are equal (`Statistics.agrees`).
* `Statistics.fingerprint` — the SHA-256 digest of the text.
* `fetches?`, `cycles?`, `calls?` — the first fact of a kind, and of a name.
-/

import SinglePath.Digest.Sha256
import SinglePath.Text.Decimal
import SinglePath.Text.Utf8

namespace SinglePath

/-- One counted fact about an execution. Cycles and calls keep the text of their counts. -/
inductive Statistic where
  /-- How often an instruction was fetched, over both fetch columns. -/
  | fetch (instruction : String) (count : Nat)
  /-- How many cycles the run took. -/
  | cycles (label : String) (count : String)
  /-- How often a function was called. -/
  | calls (function : String) (count : String)
  deriving DecidableEq, Repr, Inhabited

/-- The line of a fact, without its end. -/
def Statistic.text : Statistic → String
  | .fetch instruction count => instruction ++ " " ++ Text.Decimal.ofNat count
  | .cycles label count => label ++ " " ++ count
  | .calls function count => function ++ "(): " ++ count

/-- The facts about one execution, in the order of its report. -/
structure Statistics where
  /-- The facts, in order. -/
  entries : List Statistic
  deriving DecidableEq, Repr, Inhabited

namespace Statistics

/-- One line per fact, each ended by a newline. -/
def text (s : Statistics) : String :=
  String.join (s.entries.map fun entry => entry.text ++ "\n")

/-- Whether two executions are equivalent: their texts are equal. -/
def agrees (s t : Statistics) : Bool :=
  s.text == t.text

/-- The SHA-256 digest of the text, in hexadecimal. -/
def fingerprint (s : Statistics) : String :=
  Digest.Sha256.hexDigest (Text.Utf8.encode s.text)

/-- The fetch count listed first for an instruction. -/
def fetches? (s : Statistics) (name : String) : Option Nat :=
  s.entries.findSome? fun
    | .fetch instruction count => if instruction = name then some count else none
    | _ => none

/-- The cycle count listed first. -/
def cycles? (s : Statistics) : Option String :=
  s.entries.findSome? fun
    | .cycles _ count => some count
    | _ => none

/-- The call count listed first for a function. -/
def calls? (s : Statistics) (name : String) : Option String :=
  s.entries.findSome? fun
    | .calls function count => if function = name then some count else none
    | _ => none

end Statistics

end SinglePath
