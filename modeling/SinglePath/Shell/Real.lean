/-
**Numbers with a binary exponent.**

* `Real` — a number of 53 significant bits, an infinity, or no number.
* `Real.nearest` — the number nearest to a ratio; of two, the one with the even last bit.
* `real` — the longest such number at the start of a text.
* `Real.fixed`, `Real.scientific`, `Real.general`, `Real.hexadecimal` — a number in digits. All digits
  come from the exact value, and a half goes to the even neighbour.
-/

import SinglePath.Shell.Basic

namespace SinglePath.Shell

open Text (Bytes)

/-- A number of 53 significant bits, an infinity, or no number. -/
inductive Real where
  /-- The mantissa times a power of two. -/
  | finite (negative : Bool) (mantissa : Nat) (exponent : Int)
  | infinite (negative : Bool)
  | notNumber (negative : Bool)
  deriving Repr

namespace Real

/-- A ratio rounded to a whole number; a half goes to the even neighbour. -/
def roundRatio (numerator denominator : Nat) : Nat :=
  let quotient := numerator / denominator
  let twice := 2 * (numerator % denominator)
  if twice < denominator then quotient
  else if denominator < twice then quotient + 1
  else quotient + quotient % 2

/-- A ratio times a power of a base, as a ratio. -/
def scale (base : Nat) (exponent : Int) (ratio : Nat × Nat) : Nat × Nat :=
  match exponent with
  | .ofNat n => (ratio.1 * Nat.pow base n, ratio.2)
  | .negSucc n => (ratio.1, ratio.2 * Nat.pow base (n + 1))

/-- The mantissa of a ratio for an exponent; with too many bits, that for the next exponent, at most
`fuel` times. -/
def fit (ratio : Nat × Nat) : Nat → Int → Nat × Int
  | 0, exponent => (0, exponent)
  | fuel + 1, exponent =>
    let (numerator, denominator) := scale 2 (-exponent) ratio
    let mantissa := roundRatio numerator denominator
    if 9007199254740992 ≤ mantissa then fit ratio fuel (exponent + 1) else (mantissa, exponent)

/-- The number nearest to a ratio, and whether the ratio is out of range. -/
def nearest (negative : Bool) (numerator denominator : Nat) : Real × Bool :=
  if numerator = 0 then (.finite negative 0 0, false)
  else
    let size : Int := (Nat.log2 numerator : Int) - Nat.log2 denominator
    let (mantissa, exponent) := fit (numerator, denominator) 4 (max (size - 53) (-1074))
    if 971 < exponent then (.infinite negative, true)
    else
      let (top, bottom) := scale 2 exponent (mantissa, 1)
      let exact := top * denominator = numerator * bottom
      (.finite negative mantissa exponent, mantissa < 4503599627370496 && !exact)

/-- The absolute value as a ratio. -/
def ratio : Real → Nat × Nat
  | .finite _ mantissa exponent => scale 2 exponent (mantissa, 1)
  | _ => (0, 1)

/-- Whether a number has a minus sign. -/
def isNegative : Real → Bool
  | .finite negative _ _ | .infinite negative | .notNumber negative => negative

end Real

/-! ### Reading -/

/-- A number at the start of a text. -/
structure RealNumeral where
  value : Real
  rest : Bytes
  outOfRange : Bool := false

/-- Whether a text starts with a word, in whatever case, and what stands after it. -/
def afterWord? (word : String) (text : Bytes) : Option Bytes :=
  if (text.take word.length).map Char.toLower = word.toList then some (text.drop word.length) else none

/-- An exponent after its letter, and what stands after it. -/
def exponentAt? (letter : Char) : Bytes → Option (Int × Bytes)
  | c :: rest =>
    if c.toLower == letter then
      let (negative, digits) := match rest with
        | '-' :: digits => (true, digits)
        | '+' :: digits => (false, digits)
        | digits => (false, digits)
      let run := digits.takeWhile Char.isDigit
      if run.isEmpty then none
      else
        let value : Int := min (digitsValue 10 run) 100000
        some (if negative then -value else value, digits.drop run.length)
    else none
  | [] => none

/-- Digits with a point among them, and an exponent: the digits, how many of them stand after the
point, and what stands after all. -/
def pointed? (base : Nat) (text : Bytes) : Option (Bytes × Nat × Bytes) :=
  let isDigit (c : Char) : Bool := (digit? base c).isSome
  let whole := text.takeWhile isDigit
  let (fraction, rest) := match text.drop whole.length with
    | '.' :: after => (after.takeWhile isDigit, after.dropWhile isDigit)
    | after => ([], after)
  if whole.isEmpty && fraction.isEmpty then none
  else some (whole ++ fraction, fraction.length, rest)

/-- The number of some digits times a power of a base. A power that is out of all bounds is not
computed. -/
def realOfDigits (negative : Bool) (base : Nat) (digits : Bytes) (power : Nat) (exponent : Int) :
    Real × Bool :=
  let value := digitsValue base digits
  if value = 0 then (.finite negative 0 0, false)
  else if 5000 < exponent then (.infinite negative, true)
  else if exponent < -100000 then (.finite negative 0 0, true)
  else
    let (numerator, denominator) := Real.scale power exponent (value, 1)
    Real.nearest negative numerator denominator

/-- The number at the start of a text, after blanks and a sign. -/
def real (text : Bytes) : RealNumeral :=
  let (negative, unsigned) := match text.dropWhile isSpace with
    | '-' :: rest => (true, rest)
    | '+' :: rest => (false, rest)
    | rest => (false, rest)
  match afterWord? "infinity" unsigned with
  | some rest => ⟨.infinite negative, rest, false⟩
  | none =>
    match afterWord? "inf" unsigned with
    | some rest => ⟨.infinite negative, rest, false⟩
    | none =>
      match afterWord? "nan" unsigned with
      | some rest => ⟨.notNumber negative, rest, false⟩
      | none =>
        let hexadecimal := match unsigned with
          | '0' :: x :: rest => if x == 'x' || x == 'X' then pointed? 16 rest else none
          | _ => none
        match hexadecimal with
        | some (digits, places, rest) =>
          let (exponent, rest) := (exponentAt? 'p' rest).getD (0, rest)
          let (value, outOfRange) := realOfDigits negative 16 digits 2 (exponent - 4 * places)
          ⟨value, rest, outOfRange⟩
        | none =>
          match pointed? 10 unsigned with
          | some (digits, places, rest) =>
            let (exponent, rest) := (exponentAt? 'e' rest).getD (0, rest)
            let (value, outOfRange) := realOfDigits negative 10 digits 10 (exponent - places)
            ⟨value, rest, outOfRange⟩
          | none => ⟨.finite false 0 0, text, false⟩

/-! ### Writing -/

namespace Real

/-- Digits with a point before the last `places` of them. -/
def withPoint (places : Nat) (keepPoint : Bool) (digits : Bytes) : Bytes :=
  let padded := List.replicate (places + 1 - digits.length) '0' ++ digits
  let (whole, fraction) := padded.splitAt (padded.length - places)
  if fraction.isEmpty && !keepPoint then whole else whole ++ '.' :: fraction

/-- A number with a fixed count of places. -/
def fixed (places : Nat) (keepPoint : Bool) (value : Real) : Bytes :=
  let (numerator, denominator) := scale 10 places value.ratio
  withPoint places keepPoint (Nat.toDigits 10 (roundRatio numerator denominator))

/-- The power of ten of the first digit, found from a guess by at most `fuel` steps. -/
def magnitude (ratio : Nat × Nat) : Nat → Int → Int
  | 0, guess => guess
  | fuel + 1, guess =>
    let (numerator, denominator) := scale 10 (-guess) ratio
    if numerator < denominator then magnitude ratio fuel (guess - 1)
    else if 10 * denominator ≤ numerator then magnitude ratio fuel (guess + 1)
    else guess

/-- The digits of a number with some places after the first one, and the power of ten of the first. -/
def significant (places : Nat) (value : Real) : Bytes × Int :=
  let ratio := value.ratio
  if ratio.1 = 0 then (List.replicate (places + 1) '0', 0)
  else
    let size : Int := (Nat.log2 ratio.1 : Int) - Nat.log2 ratio.2
    let power := magnitude ratio 8 (size * 30103 / 100000)
    let (numerator, denominator) := scale 10 (places - power) ratio
    let digits := Nat.toDigits 10 (roundRatio numerator denominator)
    if places + 1 < digits.length then (digits.take (places + 1), power + 1) else (digits, power)

/-- An exponent of at least two digits, with its sign. -/
def exponentText (letter : Char) (least : Nat) (exponent : Int) : Bytes :=
  let digits := Nat.toDigits 10 exponent.natAbs
  letter :: (if exponent < 0 then '-' else '+') :: (List.replicate (least - digits.length) '0' ++ digits)

/-- A number with one digit before the point and an exponent. -/
def scientific (places : Nat) (keepPoint : Bool) (value : Real) : Bytes :=
  let (digits, power) := value.significant places
  withPoint places keepPoint digits ++ exponentText 'e' 2 power

/-- Drops zeros at the end of a fraction. -/
def trim (text : Bytes) : Bytes :=
  if text.contains '.' then
    let kept := text.reverse.dropWhile (· == '0')
    (if kept.head? == some '.' then kept.tail else kept).reverse
  else text

/-- A number with some significant digits, with an exponent if it is very great or very small. -/
def general (precision : Nat) (keepZeros : Bool) (value : Real) : Bytes :=
  let precision := max precision 1
  let (_, power) := value.significant (precision - 1)
  if -4 ≤ power && power < precision then
    let text := value.fixed (precision - 1 - power).toNat keepZeros
    if keepZeros then text else trim text
  else
    let (digits, power) := value.significant (precision - 1)
    let text := withPoint (precision - 1) keepZeros digits
    (if keepZeros then text else trim text) ++ exponentText 'e' 2 power

/-- A number in hexadecimal digits with a binary exponent. -/
def hexadecimal (places : Option Nat) (keepPoint : Bool) (value : Real) : Bytes :=
  let (mantissa, exponent) : Nat × Int := match value with
    | .finite _ mantissa exponent => (mantissa, exponent)
    | _ => (0, 0)
  let (mantissa, exponent) : Nat × Int :=
    if mantissa = 0 then (0, -52)
    else if mantissa < 4503599627370496 && -1074 < exponent then
      let missing := min (52 - Nat.log2 mantissa) (exponent + 1074).toNat
      (mantissa * Nat.pow 2 missing, exponent - missing)
    else (mantissa, exponent)
  let rounded := match places with
    | some n =>
      if n < 13 then roundRatio mantissa (Nat.pow 16 (13 - n))
      else mantissa * Nat.pow 16 (n - 13)
    | none => mantissa
  let text := withPoint (places.getD 13) keepPoint (Nat.toDigits 16 rounded)
  let text := if places.isNone && !keepPoint then trim text else text
  '0' :: 'x' :: text ++ exponentText 'p' 1 (exponent + 52)

end Real

end SinglePath.Shell
