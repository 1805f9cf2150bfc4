/-
**Arithmetic expressions of the shell.**

* `evaluate` — the value of an expression over signed 64-bit numbers, given the values of variables, and
  the variables that it sets.

Operators have the ranks they have in C. Division goes toward zero. An operand that the operator before
it makes superfluous is read but not computed.
-/

import SinglePath.Shell.Basic

namespace SinglePath.Shell.Arithmetic

open Text (Bytes)

/-- Why an expression has no value. -/
inductive ArithmeticError where
  /-- Something else was expected in the expression. -/
  | expecting (what : String)
  /-- A variable holds no number. -/
  | illegalNumber (text : Bytes)
  | divisionByZero
  /-- The quotient does not fit 64 bits. -/
  | quotientTooGreat
  deriving Repr

/-- A piece of an expression. -/
inductive Token where
  | number (value : Int)
  | name (text : String)
  | operator (symbol : String)
  /-- A character that starts no piece. -/
  | stray (c : Char)
  deriving DecidableEq, Repr

/-- The operators, longer ones before those they begin with. -/
def symbols : List String :=
  ["<<=", ">>=", "<<", ">>", "<=", ">=", "==", "!=", "&&", "||", "+=", "-=", "*=", "/=", "%=", "&=", "^=",
   "|=", "+", "-", "*", "/", "%", "<", ">", "&", "^", "|", "!", "~", "(", ")", "?", ":", "="]

/-- The first piece of a text and its length. -/
def tokenAt (text : Bytes) (c : Char) : Token × Nat :=
  if c.isDigit then
    let number := numeral true text
    (.number (min number.value greatest), text.length - number.rest.length)
  else if isNameStart c then
    let name := nameAt text
    (.name (String.ofList name), name.length)
  else
    match symbols.find? fun symbol => symbol.toList.isPrefixOf text with
    | some symbol => (.operator symbol, symbol.length)
    | none => (.stray c, 1)

/-- Divides an expression of at most `fuel` characters into pieces. -/
def tokens : Nat → Bytes → List Token
  | 0, _ => []
  | _, [] => []
  | fuel + 1, c :: rest =>
    if isSpace c then tokens fuel rest
    else
      let (token, length) := tokenAt (c :: rest) c
      token :: tokens fuel ((c :: rest).drop length)

/-- A truth value as a number. -/
def ofBool (b : Bool) : Int :=
  if b then 1 else 0

/-- The rank of an operator between two values that are both needed; a higher one binds more
tightly. -/
def rank? : String → Option Nat
  | "|" => some 1
  | "^" => some 2
  | "&" => some 3
  | "==" | "!=" => some 4
  | "<" | "<=" | ">" | ">=" => some 5
  | "<<" | ">>" => some 6
  | "+" | "-" => some 7
  | "*" | "/" | "%" => some 8
  | _ => none

/-- The operator that an assignment applies to the old value and the new one. -/
def updating? : String → Option String
  | "<<=" => some "<<"
  | ">>=" => some ">>"
  | "+=" => some "+"
  | "-=" => some "-"
  | "*=" => some "*"
  | "/=" => some "/"
  | "%=" => some "%"
  | "&=" => some "&"
  | "^=" => some "^"
  | "|=" => some "|"
  | _ => none

/-- The value of an operator on two values. -/
def apply (symbol : String) (x y : Int) : Except ArithmeticError Int :=
  let bits (f : Int64 → Int64 → Int64) : Int := (f (Int64.ofInt x) (Int64.ofInt y)).toInt
  let quotient (f : Int → Int → Int) : Except ArithmeticError Int :=
    if y = 0 then .error .divisionByZero
    else if x = least && y = -1 then .error .quotientTooGreat
    else .ok (f x y)
  match symbol with
  | "|" => .ok (bits (· ||| ·))
  | "^" => .ok (bits (· ^^^ ·))
  | "&" => .ok (bits (· &&& ·))
  | "==" => .ok (ofBool (x == y))
  | "!=" => .ok (ofBool (x != y))
  | "<" => .ok (ofBool (x < y))
  | "<=" => .ok (ofBool (x ≤ y))
  | ">" => .ok (ofBool (y < x))
  | ">=" => .ok (ofBool (y ≤ x))
  | "<<" => .ok (bits (· <<< ·))
  | ">>" => .ok (bits (· >>> ·))
  | "+" => .ok (wrap (x + y))
  | "-" => .ok (wrap (x - y))
  | "*" => .ok (wrap (x * y))
  | "/" => quotient Int.tdiv
  | "%" => quotient Int.tmod
  | _ => .error (.expecting "EOF")

/-- A computation under way. -/
structure Calculation where
  /-- The pieces that are left. -/
  rest : List Token
  /-- The variables that were set, the latest first. -/
  assigned : List (String × Int) := []

/-- A part of a computation. -/
abbrev Step (α : Type) := EStateM ArithmeticError Calculation α

/-- Drops the next piece. -/
def shift : Step Unit :=
  modify fun s => { s with rest := s.rest.tail }

/-- The value of a variable: no value, or an empty one, is zero. -/
def lookup (bindings : String → Option Bytes) (name : String) : Step Int := do
  match (← get).assigned.lookup name with
  | some value => return value
  | none =>
    match bindings name with
    | none => return 0
    | some text =>
      match integer? true text with
      | some value => return value
      | none => throw (.illegalNumber text)

/-- The value of an operator on two values, if it is needed. -/
def compute (needed : Bool) (symbol : String) (x y : Int) : Step Int :=
  if needed then
    match apply symbol x y with
    | .ok value => return value
    | .error e => throw e
  else return y

mutual

/-- A value, which may become the value of a variable. -/
def assignment (bindings : String → Option Bytes) : Nat → Bool → Step Int
  | 0, _ => throw (.expecting "primary")
  | fuel + 1, needed => do
    match (← get).rest with
    | .name name :: .operator symbol :: _ =>
      if symbol = "=" || (updating? symbol).isSome then
        shift
        shift
        let operand ← assignment bindings fuel needed
        if !needed then return operand
        let value ← match updating? symbol with
          | some operator => compute true operator (← lookup bindings name) operand
          | none => pure operand
        modify fun s => { s with assigned := (name, value) :: s.assigned }
        return value
      else conditional bindings fuel needed
    | _ => conditional bindings fuel needed

/-- A value chosen by a condition, or a value alone. -/
def conditional (bindings : String → Option Bytes) : Nat → Bool → Step Int
  | 0, _ => throw (.expecting "primary")
  | fuel + 1, needed => do
    let condition ← disjunction bindings fuel needed
    match (← get).rest with
    | .operator "?" :: _ =>
      shift
      let accepted ← assignment bindings fuel (needed && condition ≠ 0)
      match (← get).rest with
      | .operator ":" :: _ =>
        shift
        let rejected ← conditional bindings fuel (needed && condition = 0)
        return if condition ≠ 0 then accepted else rejected
      | _ => throw (.expecting "':'")
    | _ => return condition

/-- Whether one of some values is not zero. -/
def disjunction (bindings : String → Option Bytes) : Nat → Bool → Step Int
  | 0, _ => throw (.expecting "primary")
  | fuel + 1, needed => do
    let first ← conjunction bindings fuel needed
    match (← get).rest with
    | .operator "||" :: _ =>
      shift
      let second ← disjunction bindings fuel (needed && first = 0)
      return ofBool (first ≠ 0 || second ≠ 0)
    | _ => return first

/-- Whether all of some values are not zero. -/
def conjunction (bindings : String → Option Bytes) : Nat → Bool → Step Int
  | 0, _ => throw (.expecting "primary")
  | fuel + 1, needed => do
    let first ← primary bindings fuel needed
    let value ← operations bindings 1 fuel needed first
    match (← get).rest with
    | .operator "&&" :: _ =>
      shift
      let second ← conjunction bindings fuel (needed && value ≠ 0)
      return ofBool (value ≠ 0 && second ≠ 0)
    | _ => return value

/-- Goes on with operators of at least a rank, from left to right. -/
def operations (bindings : String → Option Bytes) (lowest : Nat) : Nat → Bool → Int → Step Int
  | 0, _, _ => throw (.expecting "primary")
  | fuel + 1, needed, value => do
    match (← get).rest with
    | .operator symbol :: _ =>
      match rank? symbol with
      | some rank =>
        if rank < lowest then return value
        else
          shift
          let first ← primary bindings fuel needed
          let second ← operations bindings (rank + 1) fuel needed first
          operations bindings lowest fuel needed (← compute needed symbol value second)
      | none => return value
    | _ => return value

/-- A value without operators between values outside of parentheses. -/
def primary (bindings : String → Option Bytes) : Nat → Bool → Step Int
  | 0, _ => throw (.expecting "primary")
  | fuel + 1, needed => do
    match (← get).rest with
    | .operator symbol :: _ =>
      if symbol = "-" then
        shift
        return wrap (-(← primary bindings fuel needed))
      else if symbol = "+" then
        shift
        primary bindings fuel needed
      else if symbol = "!" then
        shift
        return ofBool ((← primary bindings fuel needed) == 0)
      else if symbol = "~" then
        shift
        return -(← primary bindings fuel needed) - 1
      else if symbol = "(" then
        shift
        let value ← assignment bindings fuel needed
        match (← get).rest with
        | .operator ")" :: _ =>
          shift
          return value
        | _ => throw (.expecting "')'")
      else throw (.expecting "primary")
    | .number value :: _ =>
      shift
      return value
    | .name name :: _ =>
      shift
      if needed then lookup bindings name else return 0
    | _ => throw (.expecting "primary")

end

/-- What an expression gives: its value, and the variables that it sets in their order. They are set also
if there is something wrong with the expression after them. -/
structure Calculated where
  value : Except ArithmeticError Int
  assigned : List (String × Int)

/-- Computes an expression. -/
def evaluate (bindings : String → Option Bytes) (expression : Bytes) : Calculated :=
  let pieces := tokens expression.length expression
  match assignment bindings (8 * pieces.length + 8) true { rest := pieces } with
  | .ok value after =>
    ⟨if after.rest.isEmpty then .ok value else .error (.expecting "EOF"), after.assigned.reverse⟩
  | .error e after => ⟨.error e, after.assigned.reverse⟩

end SinglePath.Shell.Arithmetic
