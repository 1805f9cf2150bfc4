/-
**Formatted output of the shell.**

* `Format.render` — writes arguments by a format: escapes, and conversions with flags, width and
  precision. A format is used again as long as arguments are left.
* `unescape` — a text with its escapes replaced.
-/

import SinglePath.Shell.Real

namespace SinglePath.Shell.Format

open Text (Bytes)

/-! ### Escapes -/

/-- Whether a character is an octal digit. -/
def isOctal (c : Char) : Bool :=
  '0' ≤ c && c ≤ '7'

/-- The byte of octal digits. -/
def octal (digits : Bytes) : Char :=
  Char.ofNat (digitsValue 8 digits % 256)

/-- What an escape stands for, and the text after it. The backslash is already taken. -/
def escape : Bytes → Char × Bytes
  | 'a' :: rest => ('\x07', rest)
  | 'b' :: rest => ('\x08', rest)
  | 'e' :: rest => ('\x1b', rest)
  | 'f' :: rest => ('\x0c', rest)
  | 'n' :: rest => ('\n', rest)
  | 'r' :: rest => ('\r', rest)
  | 't' :: rest => ('\t', rest)
  | 'v' :: rest => ('\x0b', rest)
  | '\\' :: rest => ('\\', rest)
  | text =>
    let digits := (text.take 3).takeWhile isOctal
    if digits.isEmpty then ('\\', text) else (octal digits, text.drop digits.length)

/-- A text with its escapes replaced, for texts of at most `fuel` characters; what was read comes
reversed. After a zero, three more octal digits are read; an escaped `c` ends the text and all output. -/
def unescapeFrom : Nat → Bytes → Bytes → Bytes × Bool
  | 0, read, rest => (read.reverse ++ rest, false)
  | _, read, [] => (read.reverse, false)
  | _ + 1, read, '\\' :: 'c' :: _ => (read.reverse, true)
  | fuel + 1, read, '\\' :: '0' :: rest =>
    let digits := (rest.take 3).takeWhile isOctal
    unescapeFrom fuel (octal digits :: read) (rest.drop digits.length)
  | fuel + 1, read, '\\' :: rest =>
    let (found, after) := escape rest
    unescapeFrom fuel (found :: read) after
  | fuel + 1, read, c :: rest => unescapeFrom fuel (c :: read) rest

/-- A text with its escapes replaced, and whether one of them ends all output. -/
def unescape (text : Bytes) : Bytes × Bool :=
  if text.contains '\\' then unescapeFrom text.length [] text else (text, false)

/-! ### Conversions -/

/-- A width or a precision: as written, or taken from an argument. -/
inductive Amount where
  | given (value : Nat)
  | argument
  deriving Repr

/-- A conversion of one argument. -/
structure Conversion where
  flags : Bytes
  width : Option Amount
  precision : Option Amount
  kind : Char

/-- A piece of a format. -/
inductive Piece where
  | text (text : Bytes)
  | conversion (c : Conversion)
  /-- A conversion that makes no sense, with the complaint about it. -/
  | mistake (width precision : Option Amount) (complaint : Bytes)

/-- A width or a precision at the start of a text, and the text after it. -/
def amountAt : Bytes → Option Amount × Bytes
  | '*' :: rest => (some .argument, rest)
  | text =>
    let digits := text.takeWhile Char.isDigit
    (if digits.isEmpty then none else some (.given (digitsValue 10 digits)), text.drop digits.length)

/-- Whether a character is a flag of a conversion. -/
def isFlag (c : Char) : Bool :=
  c == '-' || c == '+' || c == ' ' || c == '0' || c == '#'

/-- The kinds of conversions. -/
def kinds : Bytes :=
  "bcsdiouxXaAeEfFgG".toList

/-- A conversion, after its percent sign, and the text after it. -/
def conversionAt (text : Bytes) : Piece × Bytes :=
  let flags := text.takeWhile isFlag
  let (width, afterWidth) := amountAt (text.drop flags.length)
  let (precision, afterPrecision) := match afterWidth with
    | '.' :: rest =>
      let (precision, after) := amountAt rest
      (some (precision.getD (.given 0)), after)
    | rest => (none, rest)
  match afterPrecision with
  | kind :: rest =>
    if kinds.contains kind then (.conversion ⟨flags, width, precision, kind⟩, rest)
    else
      (.mistake width precision
        ('%' :: text.take (text.length - rest.length) ++ ": invalid directive".toList), [])
  | [] => (.mistake width precision "missing format character".toList, [])

/-- Divides a format of at most `fuel` characters into pieces. -/
def pieces : Nat → Bytes → List Piece
  | 0, _ => []
  | _, [] => []
  | fuel + 1, '\\' :: rest =>
    let (found, after) := escape rest
    .text [found] :: pieces fuel after
  | fuel + 1, '%' :: '%' :: rest => .text ['%'] :: pieces fuel rest
  | fuel + 1, '%' :: rest =>
    let (piece, after) := conversionAt rest
    piece :: pieces fuel after
  | fuel + 1, c :: rest =>
    let plain := (c :: rest).takeWhile fun c => c ≠ '\\' && c ≠ '%'
    .text plain :: pieces fuel ((c :: rest).drop plain.length)

/-- A conversion whose width and precision are known. -/
structure Layout where
  left : Bool
  zeros : Bool
  /-- The sign of numbers that are not negative. -/
  plus : Option Char
  alternate : Bool
  width : Nat
  precision : Option Nat
  kind : Char

/-- Fills a text up to the width; zeros stand after what leads a number. -/
def Layout.fill (l : Layout) (zeros : Bool) (lead text : Bytes) : Bytes :=
  let missing := l.width - (lead.length + text.length)
  if l.left then lead ++ text ++ List.replicate missing ' '
  else if zeros then lead ++ List.replicate missing '0' ++ text
  else List.replicate missing ' ' ++ lead ++ text

/-- The digits of a number, with as many zeros in front as the precision asks for. -/
def Layout.digits (l : Layout) (base value : Nat) : Bytes :=
  let text := if value = 0 && l.precision = some 0 then [] else Nat.toDigits base value
  List.replicate ((l.precision.getD 1) - text.length) '0' ++ text

/-- The sign in front of a number. -/
def Layout.sign (l : Layout) (negative : Bool) : Bytes :=
  if negative then ['-'] else l.plus.toList

/-- A whole number as a conversion writes it. -/
def Layout.whole (l : Layout) (value : Int) : Bytes :=
  let natural := (value % wordCount).toNat
  let zeros := l.zeros && l.precision.isNone
  match l.kind with
  | 'd' | 'i' => l.fill zeros (l.sign (value < 0)) (l.digits 10 value.natAbs)
  | 'u' => l.fill zeros [] (l.digits 10 natural)
  | 'o' =>
    let digits := l.digits 8 natural
    l.fill zeros [] (if l.alternate && digits.head? ≠ some '0' then '0' :: digits else digits)
  | kind =>
    let digits := l.digits 16 natural
    let lead := if l.alternate && natural ≠ 0 then ['0', 'x'] else []
    let upper (text : Bytes) : Bytes := if kind == 'X' then text.map Char.toUpper else text
    l.fill zeros (upper lead) (upper digits)

/-- A number with a fraction as a conversion writes it. -/
def Layout.fractional (l : Layout) (value : Real) : Bytes :=
  let upper (text : Bytes) : Bytes := if l.kind.isUpper then text.map Char.toUpper else text
  let sign := l.sign value.isNegative
  match value with
  | .infinite _ => l.fill false sign (upper "inf".toList)
  | .notNumber _ => l.fill false sign (upper "nan".toList)
  | .finite .. =>
    match l.kind.toLower with
    | 'f' => l.fill l.zeros sign (value.fixed (l.precision.getD 6) l.alternate)
    | 'e' => l.fill l.zeros sign (upper (value.scientific (l.precision.getD 6) l.alternate))
    | 'g' => l.fill l.zeros sign (upper (value.general (l.precision.getD 6) l.alternate))
    | _ =>
      let text := upper (value.hexadecimal l.precision l.alternate)
      l.fill l.zeros (sign ++ text.take 2) (text.drop 2)

/-! ### Writing -/

/-- Output under way. -/
structure Writer where
  /-- What was written, the latest first. -/
  written : List Bytes := []
  /-- The arguments that are left. -/
  arguments : List Bytes
  /-- Complaints about arguments, the latest first. -/
  complaints : List Bytes := []
  /-- Whether all output has ended. -/
  ended : Bool := false
  /-- A complaint about the format, which ends all output. -/
  fault : Option Bytes := none

namespace Writer

/-- Takes the next argument. -/
def take (w : Writer) : Option Bytes × Writer :=
  (w.arguments.head?, { w with arguments := w.arguments.tail })

/-- Complains about an argument, if only a part of it is a number or if it is out of range. -/
def check (w : Writer) (argument rest : Bytes) (outOfRange : Bool) : Writer :=
  let complain (what : String) : Writer :=
    { w with complaints := (argument ++ ": ".toList ++ what.toList) :: w.complaints }
  if !rest.isEmpty then
    if rest.length = argument.length then complain "expected numeric value"
    else complain "not completely converted"
  else if outOfRange then complain "Numerical result out of range"
  else w

/-- The code of the character after a quote. -/
def quoted? : Bytes → Option Nat
  | '"' :: rest | '\'' :: rest => some ((rest.head?.map Char.toNat).getD 0)
  | _ => none

/-- Takes a whole number. One that is out of range becomes the nearest that is not. -/
def takeWhole (signed : Bool) (w : Writer) : Int × Writer :=
  match w.take with
  | (none, w) => (0, w)
  | (some argument, w) =>
    match quoted? argument with
    | some code => (code, w)
    | none =>
      let n := numeral true argument
      let value := if signed then max least (min greatest n.value)
        else if n.value.natAbs < wordCount then n.value
        else wordCount - 1
      let inRange := if signed then value = n.value else n.value.natAbs < wordCount
      (value, w.check argument n.rest (!inRange))

/-- Takes a number with a fraction. -/
def takeReal (w : Writer) : Real × Writer :=
  match w.take with
  | (none, w) => (.finite false 0 0, w)
  | (some argument, w) =>
    match quoted? argument with
    | some code => ((Real.nearest false code 1).1, w)
    | none =>
      let n := real argument
      (n.value, w.check argument n.rest n.outOfRange)

/-- Takes a width or a precision. One from an argument wraps around at 32 bits. -/
def takeAmount (w : Writer) : Option Amount → Option Int × Writer
  | none => (none, w)
  | some (.given value) => (some value, w)
  | some .argument =>
    let (value, w) := w.takeWhole true
    (some (Int.bmod value 4294967296), w)

/-- Adds to what was written. -/
def put (w : Writer) (text : Bytes) : Writer :=
  { w with written := text :: w.written }

/-- The width that no output can have, and the greatest precision. -/
def amountLimit : Nat := 2147483647

/-- Adds what a layout makes of an argument, if the layout is possible. -/
def putLaid (w : Writer) (l : Layout) (text : Layout → Bytes) : Writer :=
  if amountLimit ≤ l.width || l.precision.any (amountLimit < ·) then
    { w with fault := some "xvsnprintf failed".toList }
  else w.put (text l)

/-- Writes one piece. -/
def step (w : Writer) (piece : Piece) : Writer :=
  if w.ended || w.fault.isSome then w
  else match piece with
    | .text text => w.put text
    | .mistake width precision complaint =>
      let (_, w) := w.takeAmount width
      let (_, w) := w.takeAmount precision
      { w with fault := some complaint }
    | .conversion c =>
      let (width, w) := w.takeAmount c.width
      let (precision, w) := w.takeAmount c.precision
      let width := width.getD 0
      let l : Layout :=
        { left := c.flags.contains '-' || width < 0
          zeros := c.flags.contains '0'
          plus := if c.flags.contains '+' then some '+' else if c.flags.contains ' ' then some ' ' else none
          alternate := c.flags.contains '#'
          width := width.natAbs
          precision := precision.bind fun value => if value < 0 then none else some value.toNat
          kind := c.kind }
      let cut (text : Bytes) : Bytes := l.precision.elim text text.take
      match c.kind with
      | 's' =>
        let (argument, w) := w.take
        w.putLaid l fun l => l.fill false [] (cut (argument.getD []))
      | 'c' =>
        let (argument, w) := w.take
        w.putLaid l fun l => l.fill false [] [((argument.getD []).head?).getD (Char.ofNat 0)]
      | 'b' =>
        let (argument, w) := w.take
        let (text, ended) := unescape (argument.getD [])
        { w.putLaid l fun l => l.fill false [] (cut text) with ended }
      | kind =>
        if kind == 'd' || kind == 'i' then
          let (value, w) := w.takeWhole true
          w.putLaid l fun l => l.whole value
        else if "ouxX".toList.contains kind then
          let (value, w) := w.takeWhole false
          w.putLaid l fun l => l.whole value
        else
          let (value, w) := w.takeReal
          w.putLaid l fun l => l.fractional value

end Writer

/-- Writes by a format as long as arguments are left, at most `fuel` times more. A format that takes no
argument is used once. -/
def writeAll (format : List Piece) : Nat → Writer → Writer
  | 0, w => w
  | fuel + 1, w =>
    let next := format.foldl Writer.step w
    if next.arguments.isEmpty || next.ended || next.fault.isSome ||
        next.arguments.length = w.arguments.length then next
    else writeAll format fuel next

/-- Writes arguments by a format. -/
def render (format : Bytes) (arguments : List Bytes) : Writer :=
  writeAll (pieces format.length format) (arguments.length + 1) { arguments }

/-- What a writer has written. -/
def Writer.text (w : Writer) : Bytes :=
  w.written.reverse.flatten

end SinglePath.Shell.Format
