/-
**Names and numbers of the shell.**

* `isNameStart`, `isNameChar`, `isName` — what names of variables are made of.
* `assignment?` — the name and the value that a text sets.
* `Numeral` — the longest number at the start of a text, and what stands after it.
* `integer?`, `natural?` — a whole text as a number.
-/

import SinglePath.Text.Bytes

namespace SinglePath.Shell

open Text (Bytes)

/-! ### Characters and names -/

/-- Whether a character is a blank: a space, or one of the five control characters that move on. -/
def isSpace (c : Char) : Bool :=
  c == ' ' || ('\t' ≤ c && c ≤ '\r')

/-- Whether a character starts a name. -/
def isNameStart (c : Char) : Bool :=
  c.isAlpha || c == '_'

/-- Whether a character goes on with a name. -/
def isNameChar (c : Char) : Bool :=
  c.isAlphanum || c == '_'

/-- Whether a text is a name. -/
def isName : Bytes → Bool
  | [] => false
  | c :: rest => isNameStart c && rest.all isNameChar

/-- The name at the start of a text. -/
def nameAt : Bytes → Bytes
  | [] => []
  | c :: rest => if isNameStart c then c :: rest.takeWhile isNameChar else []

/-- The name and the value that a text sets, if it has the form of an assignment. -/
def assignment? (text : Bytes) : Option (String × Bytes) :=
  let name := nameAt text
  match name, text.drop name.length with
  | _ :: _, '=' :: value => some (String.ofList name, value)
  | _, _ => none

/-! ### Numbers -/

/-- The value of a digit, in a base up to sixteen. -/
def digit? (base : Nat) (c : Char) : Option Nat :=
  let value :=
    if c.isDigit then c.toNat - '0'.toNat
    else if 'a' ≤ c && c ≤ 'f' then c.toNat - 'a'.toNat + 10
    else if 'A' ≤ c && c ≤ 'F' then c.toNat - 'A'.toNat + 10
    else 16
  if value < base then some value else none

/-- The value of digits; a character that is none counts as zero. -/
def digitsValue (base : Nat) (digits : Bytes) : Nat :=
  digits.foldl (fun value c => base * value + (digit? base c).getD 0) 0

/-- The longest number at the start of a text. -/
structure Numeral where
  /-- Its value; zero if there is no number. -/
  value : Int
  /-- Whether there is a number. -/
  found : Bool
  /-- What stands after the number; the whole text if there is none. -/
  rest : Bytes

/-- The base that the start of a number asks for, and the digits after what says so. -/
def baseAt : Bytes → Nat × Bytes
  | '0' :: x :: c :: rest =>
    if (x == 'x' || x == 'X') && (digit? 16 c).isSome then (16, c :: rest) else (8, '0' :: x :: c :: rest)
  | '0' :: rest => (8, '0' :: rest)
  | text => (10, text)

/-- The number at the start of a text, after blanks and a sign. If `anyBase`, a leading zero announces
an octal number, and a zero and an `x` a hexadecimal one. -/
def numeral (anyBase : Bool) (text : Bytes) : Numeral :=
  let (negative, unsigned) := match text.dropWhile isSpace with
    | '-' :: rest => (true, rest)
    | '+' :: rest => (false, rest)
    | rest => (false, rest)
  let (base, body) := if anyBase then baseAt unsigned else (10, unsigned)
  let digits := body.takeWhile fun c => (digit? base c).isSome
  if digits.isEmpty then ⟨0, false, text⟩
  else
    let value : Int := digitsValue base digits
    ⟨if negative then -value else value, true, body.drop digits.length⟩

/-- The greatest number of 64 bits with a sign. -/
def greatest : Int := 9223372036854775807

/-- The least number of 64 bits with a sign. -/
def least : Int := -9223372036854775808

/-- How many numbers of 64 bits there are. -/
def wordCount : Int := 18446744073709551616

/-- A number within 64 bits, wrapped around. -/
def wrap (value : Int) : Int :=
  Int.bmod value 18446744073709551616

/-- A whole text as a number of 64 bits; blanks around it do not matter. A blank text is zero if
`anyBase`, and no number otherwise. -/
def integer? (anyBase : Bool) (text : Bytes) : Option Int :=
  let n := numeral anyBase text
  if !n.rest.all isSpace || (!n.found && !anyBase) then none
  else if n.value < least || greatest < n.value then none
  else some n.value

/-- A whole text as a number without a sign that fits 31 bits. -/
def natural? (text : Bytes) : Option Nat :=
  match integer? false text with
  | some (.ofNat n) => if n ≤ 2147483647 then some n else none
  | _ => none

end SinglePath.Shell
