/-
**Fields: how an expanded word becomes arguments.**

* `Run` — a stretch of an expanded word: whether it is quoted, and whether it may be divided.
* `fields` — the arguments that a word gives. Only what an expansion gave outside of quotes is divided,
  at the characters of the separator variable; quotes always give an argument, even an empty one.
* `readFields` — the values that a line gives to the variables that read it.

In a run that may be divided a character of code zero is a border: it divides like a blank, whatever
the separators are.
-/

import SinglePath.Shell.Command

namespace SinglePath.Shell

open Text (Bytes)

/-- How a stretch of a word may be divided. -/
inductive Division where
  /-- Not at all. -/
  | whole
  /-- At separators and borders. -/
  | separators
  /-- At borders only, and all arguments between them count. -/
  | borders
  deriving DecidableEq, Repr

/-- A stretch of an expanded word. -/
inductive Run where
  | text (quoting : Quoting) (division : Division) (chars : Bytes)
  /-- Quotes stood here. -/
  | mark
  deriving Repr

/-- A border between arguments. -/
def border : Char := Char.ofNat 0

/-- A stretch of an argument, with how it is quoted. -/
abbrev Stretch := Quoting × Bytes

/-- A word as one text. -/
def joined : List Run → Bytes
  | [] => []
  | [.text _ _ chars] => chars
  | .text _ _ chars :: rest => chars ++ joined rest
  | .mark :: rest => joined rest

/-- The stretches of a word that is not divided. -/
def stretches (runs : List Run) : List Stretch :=
  runs.map fun
    | .text quoting _ chars => (quoting, chars)
    | .mark => (.quotes, [])

/-- Whether a character divides a run. -/
def divides (separators : Bytes) (division : Division) (c : Char) : Bool :=
  c == border || (division == .separators && separators.contains c)

/-- Whether a character that divides a run is a blank, of which many divide like one. -/
def isSoft (c : Char) : Bool :=
  c == border || c == ' ' || c == '\t' || c == '\n'

/-- Arguments under way. -/
structure Splitting where
  /-- The finished arguments, the latest first. -/
  finished : List (List Stretch) := []
  /-- The argument under way, its latest stretch first. -/
  stretches : List Stretch := []
  /-- The characters of the run under way, the latest first. -/
  chars : Bytes := []
  /-- Whether quotes stood in the argument under way. -/
  marked : Bool := false
  /-- Whether a blank has just ended an argument, so that a separator after it ends no other. -/
  soft : Bool := false
  /-- How the latest run that may be divided is divided. -/
  division : Division := .separators
  /-- Whether the run before it was divided at borders only. -/
  afterBorders : Bool := false

namespace Splitting

/-- Whether nothing stands in the argument under way. -/
def isFresh (s : Splitting) : Bool :=
  s.stretches.isEmpty && s.chars.isEmpty && !s.marked

/-- Ends the run under way. -/
def endRun (quoting : Quoting) (s : Splitting) : Splitting :=
  if s.chars.isEmpty then s
  else { s with stretches := (quoting, s.chars.reverse) :: s.stretches, chars := [] }

/-- Ends the argument under way. -/
def close (quoting : Quoting) (s : Splitting) : Splitting :=
  let s := s.endRun quoting
  { s with finished := s.stretches.reverse :: s.finished, stretches := [], marked := false }

/-- One character of a run that may be divided. -/
def char (separators : Bytes) (quoting : Quoting) (s : Splitting) (c : Char) : Splitting :=
  let divider := divides separators s.division c
  if s.soft then
    if divider then { s with soft := isSoft c }
    else { s with chars := c :: s.chars, soft := false }
  else if divider then
    let soft := isSoft c && s.division == .separators && !s.afterBorders
    if soft && s.isFresh then s
    else { s.close quoting with soft }
  else { s with chars := c :: s.chars }

/-- One stretch of a word. -/
def step (separators : Bytes) (s : Splitting) : Run → Splitting
  | .mark => { s with marked := true }
  | .text quoting .whole chars =>
    if chars.isEmpty then s else { s with stretches := (quoting, chars) :: s.stretches }
  | .text quoting division chars =>
    let s := { s with soft := false, afterBorders := s.division == .borders, division }
    (chars.foldl (char separators quoting) s).endRun quoting

end Splitting

/-- The arguments that a word gives. -/
def fields (separators : Bytes) (runs : List Run) : List (List Stretch) :=
  let s := runs.foldl (Splitting.step separators) {}
  let s := if s.division == .borders || !s.isFresh then s.close .plain else s
  s.finished.reverse

/-! ### Lines that variables read -/

/-- The division of a line among variables, under way. -/
structure LineSplitting where
  finished : List Bytes := []
  /-- The value under way, the latest character first. -/
  current : Bytes := []
  /-- How many values may still be ended. -/
  left : Nat
  /-- How many characters of the last value stay, if those after them are to be dropped. -/
  kept : Option Nat := none
  soft : Bool := false

/-- One character of a line, with whether it was escaped. -/
def LineSplitting.step (separators : Bytes) (s : LineSplitting) : Char × Bool → LineSplitting
  | (c, true) => { s with current := c :: s.current, soft := false }
  | (c, false) =>
    let divider := separators.contains c
    let soft := divider && isSoft c
    if s.left = 0 then
      let extended := { s with current := c :: s.current }
      if soft then { extended with kept := some (s.kept.getD s.current.length) }
      else { extended with kept := if divider && s.soft then s.kept else none, soft := false }
    else if s.soft then
      if soft then s
      else if divider then { s with soft := false }
      else { s with current := c :: s.current, soft := false }
    else if divider then
      if soft && s.current.isEmpty then s
      else if s.left = 1 then
        { s with left := 0, kept := some s.current.length, current := c :: s.current, soft }
      else
        { s with finished := s.current.reverse :: s.finished, current := [], left := s.left - 1, soft }
    else { s with current := c :: s.current }

/-- The values that a line gives to a number of variables; those that are missing are empty. -/
def readFields (separators : Bytes) (count : Nat) (line : List (Char × Bool)) : List Bytes :=
  let s := line.foldl (LineSplitting.step separators) { left := count }
  let last := s.current.reverse
  let last := s.kept.elim last last.take
  let values := (if last.isEmpty then s.finished else last :: s.finished).reverse
  values ++ List.replicate (count - values.length) []

end SinglePath.Shell
