/-
**Texts that may hold any bytes.**

* `Bytes` — a text as one character below 256 for each byte, so that functions on characters work on it
  whatever the bytes stand for.
* `Bytes.ofText`, `Bytes.text` — from a string to its bytes in UTF-8, and back.
* `Bytes.ofArray`, `Bytes.toArray` — from the contents of a file, and back.
* `Bytes.divide` — a text divided at a character.
-/

import SinglePath.Text.Utf8

namespace SinglePath.Text

/-- A text that may hold any bytes: one character below 256 for each byte. -/
abbrev Bytes := List Char

namespace Bytes

/-- The text of some bytes. -/
def ofBytes (bytes : List UInt8) : Bytes :=
  bytes.map fun b => Char.ofNat b.toNat

/-- The bytes that a text stands for. -/
def toBytes (text : Bytes) : List UInt8 :=
  text.map fun c => UInt8.ofNat c.toNat

/-- Whether a text is another one or comes before it, in the order of their bytes. -/
def le (x y : Bytes) : Bool :=
  !List.lex y x fun a b => decide (a.toNat < b.toNat)

/-- The bytes of a string. -/
def ofText (s : String) : Bytes :=
  ofBytes (Utf8.encode s)

/-- A text as a string; bytes that are no characters are replaced. -/
def text (b : Bytes) : String :=
  Utf8.decodeLossy b.toBytes

/-- Puts the bytes of an array from a position on, as many as given, before a text. -/
def ofArrayBefore (bytes : ByteArray) (start : Nat) : Nat → Bytes → Bytes
  | 0, after => after
  | count + 1, after =>
    let i := start + count
    let b := if h : i < bytes.size then bytes[i] else 0
    ofArrayBefore bytes start count (Char.ofNat b.toNat :: after)

/-- The bytes of an array between two positions. -/
def ofArray (bytes : ByteArray) (start stop : Nat) : Bytes :=
  ofArrayBefore bytes start (min stop bytes.size - start) []

/-- Adds the bytes of a text to the end of an array. -/
def addTo (bytes : ByteArray) (text : Bytes) : ByteArray :=
  text.foldl (fun bytes c => bytes.push (UInt8.ofNat c.toNat)) bytes

/-- The bytes of a text as an array. -/
def toArray (text : Bytes) : ByteArray :=
  addTo ByteArray.empty text

/-- A number in decimal digits. -/
def ofNat (n : Nat) : Bytes :=
  Nat.toDigits 10 n

/-- A number in decimal digits, with a sign if it is negative. -/
def ofInt : Int → Bytes
  | .ofNat n => ofNat n
  | .negSucc n => '-' :: ofNat (n + 1)

/-- Texts with a separator between them. -/
def join (separator : Bytes) (texts : List Bytes) : Bytes :=
  List.intercalate separator texts

/-- A text divided at a character. -/
def divide (divider : Char) (text : Bytes) : List Bytes :=
  let (current, pieces) := text.foldr
    (fun c (current, pieces) => if c == divider then ([], current :: pieces) else (c :: current, pieces))
    ([], [])
  current :: pieces

end Bytes

end SinglePath.Text
