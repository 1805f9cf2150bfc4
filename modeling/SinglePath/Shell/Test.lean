/-
**Conditions: what `test` decides.**

* `Test.decide` — whether a condition holds, or what is wrong with it. The condition is a list of
  arguments; some facts about files are given.

Up to four arguments have a meaning of their own: with an operator in the middle of three it is the
operator that counts, not a negation or a parenthesis before it.
-/

import SinglePath.Shell.Basic

namespace SinglePath.Shell.Test

open Text (Bytes)

/-- What an argument is, where an operator may stand. -/
inductive Symbol where
  | unary (letter : Char)
  | binary (name : String)
  | negation
  | conjunction
  | disjunction
  | opening
  | closing
  deriving DecidableEq, Repr

/-- The operator that an argument spells. -/
def symbol? (argument : Bytes) : Option Symbol :=
  match argument with
  | ['-', letter] =>
    if "rwxefdcbpugkstznhOGLS".toList.contains letter then some (.unary letter)
    else if letter == 'a' then some .conjunction
    else if letter == 'o' then some .disjunction
    else none
  | ['!'] => some .negation
  | ['('] => some .opening
  | [')'] => some .closing
  | _ =>
    let name := String.ofList argument
    if ["=", "!=", "<", ">", "-eq", "-ne", "-ge", "-gt", "-le", "-lt", "-nt", "-ot", "-ef"].contains name
    then some (.binary name)
    else none

/-- Whether an argument spells an operator between two operands. -/
def isBinary (argument : Bytes) : Bool :=
  match symbol? argument with
  | some (.binary _) => true
  | _ => false

/-- What is known about files. -/
structure Facts where
  /-- Whether a unary operator holds of a path. -/
  holds : Char → Bytes → Bool
  /-- Whether a binary operator holds of two paths. -/
  relates : String → Bytes → Bytes → Bool

/-- What the next argument is read as. -/
inductive Reading where
  | ended
  | operand
  | operator (symbol : Symbol)
  deriving DecidableEq, Repr

/-- What the first of some arguments is read as. A unary operator without an operand is one itself,
and so is one before an operator between two operands. -/
def look : List Bytes → Reading
  | [] => .ended
  | first :: rest =>
    match symbol? first with
    | some (.unary letter) =>
      match rest with
      | [] => .operand
      | [_] => .operator (.unary letter)
      | second :: _ => if isBinary second then .operand else .operator (.unary letter)
    | some .opening => if rest.isEmpty then .operand else .operator .opening
    | some symbol => .operator symbol
    | none => .operand

/-- A condition under way: the arguments from the current one on. -/
abbrev Step (α : Type) := EStateM Bytes (List Bytes) α

/-- Complains, naming an argument if it is not empty. -/
def complain {α : Type} (argument : Bytes) (message : String) : Step α :=
  throw (if argument.isEmpty then message.toList else argument ++ ": ".toList ++ message.toList)

/-- Goes to the next argument. -/
def advance : Step Unit :=
  modify List.tail

/-- What the argument after the current one is read as. -/
def lookAhead : Step Reading := do
  return look (← get).tail

/-- An operand as a number. -/
def number (argument : Bytes) : Step Int :=
  match integer? false argument with
  | some value => return value
  | none => throw ("Illegal number: ".toList ++ argument)

/-- Compares two operands as numbers. -/
def compareNumbers (x y : Bytes) (holds : Int → Int → Bool) : Step Bool := do
  let first ← number x
  let second ← number y
  return holds first second

/-- Whether an operator holds between two operands. -/
def compare (facts : Facts) (operator : String) (x y : Bytes) : Step Bool := do
  match operator with
  | "=" => return x = y
  | "!=" => return x ≠ y
  | "<" => return decide (x < y)
  | ">" => return decide (y < x)
  | "-eq" => compareNumbers x y fun a b => a = b
  | "-ne" => compareNumbers x y fun a b => a ≠ b
  | "-ge" => compareNumbers x y fun a b => b ≤ a
  | "-gt" => compareNumbers x y fun a b => b < a
  | "-le" => compareNumbers x y fun a b => a ≤ b
  | "-lt" => compareNumbers x y fun a b => a < b
  | _ => return facts.relates operator x y

mutual

/-- Conditions of which one has to hold. -/
def disjunction (facts : Facts) : Nat → Reading → Step Bool
  | 0, _ => return false
  | fuel + 1, reading => do
    let first ← conjunction facts fuel reading
    if (← lookAhead) = .operator .disjunction then
      advance
      advance
      let second ← disjunction facts fuel (look (← get))
      return first || second
    else return first

/-- Conditions that all have to hold. -/
def conjunction (facts : Facts) : Nat → Reading → Step Bool
  | 0, _ => return false
  | fuel + 1, reading => do
    let first ← negation facts fuel reading
    if (← lookAhead) = .operator .conjunction then
      advance
      advance
      let second ← conjunction facts fuel (look (← get))
      return first && second
    else return first

/-- A condition after any number of negations. -/
def negation (facts : Facts) : Nat → Reading → Step Bool
  | 0, _ => return false
  | fuel + 1, reading => do
    if reading = .operator .negation then
      let next ← lookAhead
      if next ≠ .ended then advance
      return !(← negation facts fuel next)
    else primary facts fuel reading

/-- A condition in parentheses, with an operator, or an operand alone. -/
def primary (facts : Facts) : Nat → Reading → Step Bool
  | 0, _ => return false
  | fuel + 1, reading => do
    match reading with
    | .ended => return false
    | .operator .opening =>
      advance
      let next := look (← get)
      if next = .operator .closing then return false
      else
        let value ← disjunction facts fuel next
        advance
        if look (← get) ≠ .operator .closing then complain [] "closing paren expected"
        return value
    | .operator (.unary letter) =>
      advance
      match ← get with
      | [] => complain ['-', letter] "argument expected"
      | operand :: _ =>
        if letter == 'z' then return operand.isEmpty
        else if letter == 'n' then return !operand.isEmpty
        else if letter == 't' then
          let _ ← number operand
          return false
        else return facts.holds letter operand
    | _ =>
      match ← get with
      | first :: second :: rest =>
        match look (second :: rest) with
        | .operator (.binary operator) =>
          match rest with
          | [] =>
            advance
            complain second "argument expected"
          | operand :: _ =>
            advance
            advance
            compare facts operator first operand
        | _ => return !first.isEmpty
      | first :: _ => return !first.isEmpty
      | [] => return false

end

/-- Whether a condition holds, given what its first argument is read as. -/
def conclude (facts : Facts) (reading : Reading) (arguments : List Bytes) : Except Bytes Bool :=
  match disjunction facts (4 * arguments.length + 8) reading arguments with
  | .ok value rest =>
    match rest with
    | current :: _ :: _ =>
      .error (if current.isEmpty then "unexpected operator".toList
        else current ++ ": unexpected operator".toList)
    | _ => .ok value
  | .error complaint _ => .error complaint

/-- Whether a condition holds, or what is wrong with it. Three or four arguments after a negation are
looked at again; negations that are dropped this way count as one. -/
def decideFrom (facts : Facts) (negated : Bool) : Nat → List Bytes → Except Bytes Bool
  | 0, _ => .ok false
  | _, [] => .ok negated
  | fuel + 1, arguments =>
    let conclusion (reading : Reading) (arguments : List Bytes) : Except Bytes Bool :=
      (conclude facts reading arguments).map (· != negated)
    let usual := conclusion (look arguments) arguments
    let short : Except Bytes Bool :=
      if arguments.head? = some ['('] && arguments.getLast? = some [')'] then
        let inner := arguments.tail.dropLast
        conclusion (look inner) inner
      else if arguments.head? = some ['!'] then decideFrom facts true fuel arguments.tail
      else usual
    match arguments with
    | [_, operator, _] => if isBinary operator then conclusion .operand arguments else short
    | [_, _, _, _] => short
    | _ => usual

/-- Whether a condition holds, or what is wrong with it. -/
def decide (facts : Facts) (arguments : List Bytes) : Except Bytes Bool :=
  decideFrom facts false 4 arguments

end SinglePath.Shell.Test
