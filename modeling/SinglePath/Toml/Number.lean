/-
**TOML numbers, dates and times.**

* `integer` — decimal with a sign, or hexadecimal, octal or binary without; it fits 64 bits.
* `float` — with a fraction, an exponent or both, or an infinity or no number; one that is too large
  for a double is refused.
* `dateTime` — a date, a time, or both, with or without an offset; every part is in its range.

Digits may be grouped by single underscores between them.
-/

import SinglePath.Toml.Text

namespace SinglePath.Toml

open Text (Reader)
open Text.Reader

/-! ### Integers -/

/-- Whether a character is an octal digit. -/
def isOctalDigit (c : Char) : Bool :=
  '0' ≤ c && c ≤ '7'

/-- Whether a character is a binary digit. -/
def isBinaryDigit (c : Char) : Bool :=
  c == '0' || c == '1'

/-- Digits of a class, with single underscores between them. -/
def grouped (isDigit : Char → Bool) : Reader (List Char) := do
  let first ← one isDigit
  let more ← many (one isDigit <|> (do exactly '_'; one isDigit))
  return first :: more

/-- A decimal number without leading zeros. -/
def decimalDigits : Reader (List Char) := fun text =>
  match text with
  | '0' :: after => some (['0'], after)
  | _ => grouped Char.isDigit text

/-- The value of digits to a base. -/
def valueOf (base : Nat) (digits : List Char) : Nat :=
  digits.foldl (fun value c => base * value + hexValue c) 0

/-- A sign, if there is one. -/
def sign : Reader (Option Char) :=
  perhaps (one fun c => c == '+' || c == '-')

/-- A number with the marker of its base. -/
def prefixed (marker : String) (base : Nat) (isDigit : Char → Bool) : Reader Int := do
  word marker
  return valueOf base (← grouped isDigit)

/-- A decimal number with an optional sign. -/
def signedDecimal : Reader Int := do
  let negative := (← sign) == some '-'
  let value : Int := valueOf 10 (← decimalDigits)
  return if negative then -value else value

/-- A whole number that fits 64 bits. -/
def integer : Reader Int := do
  let value ← prefixed "0x" 16 isHexDigit <|> prefixed "0o" 8 isOctalDigit <|>
    prefixed "0b" 2 isBinaryDigit <|> signedDecimal
  if -9223372036854775808 ≤ value && value < 9223372036854775808 then return value else failure

/-! ### Floats -/

/-- Whether `digits × 10 ^ exponent` is too large for a double: it rounds to at least `2 ^ 1024`. The
powers are computed only where the number of digits leaves it open. -/
def tooLarge (digits : List Char) (exponent : Int) : Bool :=
  let significant := digits.dropWhile (· == '0')
  let magnitude : Int := significant.length + exponent
  if significant.isEmpty || magnitude < 309 then false
  else if 309 < magnitude then true
  else
    let value := valueOf 10 significant
    let bound := Nat.pow 2 1024 - Nat.pow 2 970
    if 0 ≤ exponent then bound ≤ value * Nat.pow 10 exponent.toNat
    else bound * Nat.pow 10 (-exponent).toNat ≤ value

/-- The fraction of a number. -/
def fraction : Reader (List Char) := do
  exactly '.'
  grouped Char.isDigit

/-- The exponent of a number. -/
def exponent : Reader Int := do
  discard (one fun c => c == 'e' || c == 'E')
  let negative := (← sign) == some '-'
  let value : Int := valueOf 10 (← grouped Char.isDigit)
  return if negative then -value else value

/-- A number with a fraction, an exponent or both. -/
def finiteFloat : Reader Unit := do
  let negative := (← sign) == some '-'
  let whole ← decimalDigits
  let fractional ← perhaps fraction
  let power ← perhaps exponent
  if fractional.isNone && power.isNone then failure
  let decimals := fractional.getD []
  if !negative && tooLarge (whole ++ decimals) (power.getD 0 - decimals.length) then failure

/-- An infinity, or what is no number. -/
def specialFloat : Reader Unit := do
  discard sign
  word "inf" <|> word "nan"

/-- Reads something and returns its text. -/
def spelled (reader : Reader Unit) : Reader String := do
  let before ← rest
  reader
  let after ← rest
  return String.ofList (before.take (before.length - after.length))

/-- A number that need not be whole. -/
def float : Reader String :=
  spelled (finiteFloat <|> specialFloat)

/-! ### Dates and times -/

/-- A number of exactly `count` digits, in a range. -/
def part (count low high : Nat) : Reader Nat := do
  let value := valueOf 10 (← times Char.isDigit count)
  if low ≤ value && value ≤ high then return value else failure

/-- Whether a year has a leap day. -/
def isLeap (year : Nat) : Bool :=
  year % 4 == 0 && (year % 100 ≠ 0 || year % 400 == 0)

/-- The number of days of a month. -/
def daysOf (year month : Nat) : Nat :=
  if month == 2 then (if isLeap year then 29 else 28)
  else if month == 4 || month == 6 || month == 9 || month == 11 then 30
  else 31

/-- A date. -/
def date : Reader Unit := do
  let year ← part 4 0 9999
  exactly '-'
  let month ← part 2 1 12
  exactly '-'
  discard (part 2 1 (daysOf year month))

/-- A time of day; a minute may have a leap second. -/
def time : Reader Unit := do
  discard (part 2 0 23)
  exactly ':'
  discard (part 2 0 59)
  exactly ':'
  discard (part 2 0 60)
  discard (perhaps (do exactly '.'; run1 Char.isDigit))

/-- An offset from universal time. -/
def offset : Reader Unit :=
  discard (one fun c => c == 'Z' || c == 'z') <|> do
    discard (one fun c => c == '+' || c == '-')
    discard (part 2 0 23)
    exactly ':'
    discard (part 2 0 59)

/-- A date, a time, or both. -/
def dateTime : Reader String :=
  spelled <|
    (do
      date
      discard (perhaps (do
        discard (one fun c => c == 'T' || c == 't' || c == ' ')
        time
        discard (perhaps offset))))
    <|> time

end SinglePath.Toml
