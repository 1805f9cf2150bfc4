/-
**Reading bytes as UTF-8, with or without replacement.**

* `decode` — reads bytes from left to right. A maximal run of bytes that starts a character and
  cannot be continued becomes one replacement character, as does any byte that starts none; the
  result says whether that ever happened.
* `decodeLossy` — the decoded text, replacements included.
* `decode?` — the decoded text of bytes that need no replacement.

The decoder is one pass with at most one unfinished character, which records the range its next
byte must lie in. The narrower ranges after `E0`, `ED`, `F0` and `F4` keep out overlong forms,
surrogates and values past the last code point.
-/

namespace SinglePath.Text.Utf8

/-- A character of which some bytes are still missing. -/
structure Unfinished where
  /-- The bits read so far. -/
  value : Nat
  /-- How many bytes are missing. -/
  missing : Nat
  /-- The least byte that may come next. -/
  low : UInt8
  /-- The greatest byte that may come next. -/
  high : UInt8

/-- The state of the decoder between two bytes. -/
structure Decoder where
  /-- The characters read so far, the latest first. -/
  reversed : List Char := []
  /-- The character that is being read. -/
  unfinished : Option Unfinished := none
  /-- Whether nothing was replaced so far. -/
  faithful : Bool := true

/-- What stands for bytes that are no character. -/
def replacement : Char := '\uFFFD'

/-- Adds a character. -/
def Decoder.emit (d : Decoder) (c : Char) : Decoder :=
  { d with reversed := c :: d.reversed, unfinished := none }

/-- Adds a replacement. -/
def Decoder.replace (d : Decoder) : Decoder :=
  { d with reversed := replacement :: d.reversed, unfinished := none, faithful := false }

/-- The first byte of a character of more than one byte. -/
def lead? (b : UInt8) : Option Unfinished :=
  let bits (mask : UInt8) : Nat := (b &&& mask).toNat
  if 0xC2 ≤ b && b ≤ 0xDF then some ⟨bits 0x1F, 1, 0x80, 0xBF⟩
  else if b == 0xE0 then some ⟨bits 0x0F, 2, 0xA0, 0xBF⟩
  else if b == 0xED then some ⟨bits 0x0F, 2, 0x80, 0x9F⟩
  else if 0xE1 ≤ b && b ≤ 0xEF then some ⟨bits 0x0F, 2, 0x80, 0xBF⟩
  else if b == 0xF0 then some ⟨bits 0x07, 3, 0x90, 0xBF⟩
  else if 0xF1 ≤ b && b ≤ 0xF3 then some ⟨bits 0x07, 3, 0x80, 0xBF⟩
  else if b == 0xF4 then some ⟨bits 0x07, 3, 0x80, 0x8F⟩
  else none

/-- Reads a byte between two characters. -/
def Decoder.start (d : Decoder) (b : UInt8) : Decoder :=
  if b < 0x80 then d.emit (Char.ofNat b.toNat)
  else match lead? b with
    | some unfinished => { d with unfinished := some unfinished }
    | none => d.replace

/-- Reads one byte. -/
def Decoder.step (d : Decoder) (b : UInt8) : Decoder :=
  match d.unfinished with
  | none => d.start b
  | some u =>
    if u.low ≤ b && b ≤ u.high then
      let value := u.value * 64 + (b &&& 0x3F).toNat
      if u.missing ≤ 1 then d.emit (Char.ofNat value)
      else { d with unfinished := some ⟨value, u.missing - 1, 0x80, 0xBF⟩ }
    else d.replace.start b

/-- Ends the reading; an unfinished character is replaced. -/
def Decoder.finish (d : Decoder) : Decoder :=
  if d.unfinished.isSome then d.replace else d

/-- Reads bytes as UTF-8. -/
def decode (bytes : List UInt8) : Decoder :=
  (bytes.foldl Decoder.step {}).finish

/-- The text of bytes, with a replacement for what is not UTF-8. -/
def decodeLossy (bytes : List UInt8) : String :=
  String.ofList (decode bytes).reversed.reverse

/-- The text of bytes that are UTF-8. -/
def decode? (bytes : List UInt8) : Option String :=
  let decoded := decode bytes
  if decoded.faithful then some (String.ofList decoded.reversed.reverse) else none

/-- The bytes of a text. -/
def encode (s : String) : List UInt8 :=
  s.toUTF8.toList

end SinglePath.Text.Utf8
