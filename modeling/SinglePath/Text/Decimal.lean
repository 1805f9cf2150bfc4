/-
**Decimal numbers within limits.**

* `readNat?` — an optional plus sign and one or more decimal digits, with a value below a bound.
* `readInt?` — an optional sign and one or more decimal digits, with a value in a range.
* `ofInt` — an integer in decimal, a minus sign before the digits of a negative one.

Only the ASCII digits count, and leading zeros are allowed.
-/

namespace SinglePath.Text.Decimal

/-- The value of a decimal digit. -/
def digitValue (c : Char) : Nat :=
  c.toNat - '0'.toNat

/-- The value of a list of decimal digits, the most significant first. -/
def valueOf (digits : List Char) : Nat :=
  digits.foldl (fun value c => 10 * value + digitValue c) 0

/-- Reads one or more decimal digits and nothing else. -/
def readDigits? (cs : List Char) : Option Nat :=
  if cs.isEmpty || !cs.all Char.isDigit then none else some (valueOf cs)

/-- Reads an optionally signed number. -/
def readSigned? : List Char → Option Int
  | '+' :: digits => (readDigits? digits).map Int.ofNat
  | '-' :: digits => (readDigits? digits).map fun value => -(Int.ofNat value)
  | digits => (readDigits? digits).map Int.ofNat

/-- Reads digits after an optional plus sign. -/
def readUnsigned? : List Char → Option Nat
  | '+' :: digits => readDigits? digits
  | digits => readDigits? digits

/-- Reads a number below `bound`, with an optional plus sign. -/
def readNat? (bound : Nat) (s : String) : Option Nat :=
  (readUnsigned? s.toList).filter (· < bound)

/-- Reads a number from `low` to `high`, with an optional sign. -/
def readInt? (low high : Int) (s : String) : Option Int :=
  (readSigned? s.toList).filter fun value => low ≤ value && value ≤ high

/-- A natural number in decimal. -/
def ofNat (n : Nat) : String :=
  n.repr

/-- An integer in decimal. -/
def ofInt : Int → String
  | .ofNat n => n.repr
  | .negSucc n => "-" ++ (n + 1).repr

end SinglePath.Text.Decimal
