/-
**JSON text cut into tokens.**

* `scan` — cuts a text, character by character; all it remembers is what it has begun to read;
* `scan_quoted`, `scan_letters` — a text with any characters in it is one token, and so is a number;
* `tokens` — the tokens of a value, which no longer show how it is indented;
* `scan_chars` — the characters of a value are cut into its tokens, whatever follows them.
-/

import SinglePath.Json
import SinglePath.Proofs.Text.Numeral

namespace SinglePath.Json

/-- A token of a JSON text. -/
inductive Token where
  | text (value : String)
  | number (value : Nat)
  | bool (value : Bool)
  | openList
  | closeList
  | openRecord
  | closeRecord
  | comma
  | colon
  deriving DecidableEq, Repr

/-- What a character is for outside of texts. -/
inductive Role where
  | quote
  | blank
  | mark (token : Token)
  | letter
  deriving DecidableEq, Repr

def role : Char → Role
  | '"' => .quote
  | ' ' | '\n' | '\r' | '\t' => .blank
  | '[' => .mark .openList
  | ']' => .mark .closeList
  | '\x7b' => .mark .openRecord
  | '\x7d' => .mark .closeRecord
  | ',' => .mark .comma
  | ':' => .mark .colon
  | _ => .letter

/-- What has been begun and not ended. -/
inductive Pending where
  | nothing
  /-- A number or a truth value. -/
  | word (letters : List Char)
  | text (letters : List Char)
  /-- A text, right after a backslash. -/
  | escape (letters : List Char)
  /-- A text, inside the code of a character: its value so far, and how many digits follow the next one. -/
  | code (letters : List Char) (value following : Nat)

/-- The token that a word stands for. -/
def Token.ofLetters? (letters : List Char) : Option Token :=
  if letters = "true".toList then some (.bool true)
  else if letters = "false".toList then some (.bool false)
  else (Text.Decimal.readDigits? letters).map .number

/-- The character that is written as a backslash and a letter. -/
def unescape? : Char → Option Char
  | '"' => some '"'
  | '\\' => some '\\'
  | '/' => some '/'
  | 'b' => some '\x08'
  | 'f' => some '\x0c'
  | 'n' => some '\n'
  | 'r' => some '\r'
  | 't' => some '\t'
  | _ => none

def hexDigit? (c : Char) : Option Nat :=
  if c.isDigit then some (c.toNat - '0'.toNat)
  else if 'a' ≤ c ∧ c ≤ 'f' then some (c.toNat - 'a'.toNat + 10)
  else if 'A' ≤ c ∧ c ≤ 'F' then some (c.toNat - 'A'.toNat + 10)
  else none

namespace Pending

/-- A character when nothing is open: the tokens that it ends, and what it begins. -/
def begin (c : Char) : List Token × Pending :=
  match role c with
  | .quote => ([], text [])
  | .blank => ([], nothing)
  | .mark token => ([token], nothing)
  | .letter => ([], word [c])

/-- One more character. -/
def step : Pending → Char → Option (List Token × Pending)
  | nothing, c => some (begin c)
  | word letters, c =>
    match role c with
    | .letter => some ([], word (letters ++ [c]))
    | _ => (Token.ofLetters? letters).map fun token => (token :: (begin c).1, (begin c).2)
  | text letters, c =>
    if c = '"' then some ([.text (String.ofList letters)], nothing)
    else if c = '\\' then some ([], escape letters)
    else if c.toNat < 0x20 then none
    else some ([], text (letters ++ [c]))
  | escape letters, c =>
    if c = 'u' then some ([], code letters 0 3)
    else (unescape? c).map fun read => ([], text (letters ++ [read]))
  | code letters value following, c => do
    let value := 16 * value + (← hexDigit? c)
    match following with
    | following + 1 => return ([], code letters value following)
    | 0 => if value.isValidChar then return ([], text (letters ++ [Char.ofNat value])) else none

/-- The end of the text. -/
def close : Pending → Option (List Token)
  | nothing => some []
  | word letters => (Token.ofLetters? letters).map ([·])
  | _ => none

end Pending

/-- The tokens of a text. -/
def scan : Pending → List Char → Option (List Token)
  | pending, [] => pending.close
  | pending, c :: cs =>
    (pending.step c).bind fun (tokens, next) => (scan next cs).map (tokens ++ ·)

section Steps

variable {pending next : Pending} {c : Char} {token : Token} (cs : List Char)

theorem scan_cons_of_silent (silent : pending.step c = some ([], next)) :
    scan pending (c :: cs) = scan next cs := by
  rw [scan, silent, Option.bind_some]
  exact Option.map_id'

theorem scan_cons_of_token (ends : pending.step c = some ([token], next)) :
    scan pending (c :: cs) = (scan next cs).map (token :: ·) := by
  rw [scan, ends, Option.bind_some]
  rfl

end Steps

/-! ### Texts -/

theorem hexDigit?_digitChar : ∀ digit < 16, hexDigit? (Nat.digitChar digit) = some digit := by
  decide

section Texts

variable (letters : List Char)

theorem scan_backslash {letter c : Char} (escapes : unescape? letter = some c) (notCode : letter ≠ 'u')
    (rest : List Char) :
    scan (.text letters) ('\\' :: letter :: rest) = scan (.text (letters ++ [c])) rest := by
  have read : (Pending.escape letters).step letter = some ([], .text (letters ++ [c])) := by
    rw [Pending.step, if_neg notCode, escapes]
    rfl
  rw [scan_cons_of_silent _ (show Pending.step _ _ = some ([], .escape letters) from rfl),
    scan_cons_of_silent rest read]

/-- A digit of a code, and not the last one. -/
theorem scan_code_digit {value digit following : Nat} (small : digit < 16) (rest : List Char) :
    scan (.code letters value (following + 1)) (Nat.digitChar digit :: rest) =
      scan (.code letters (16 * value + digit) following) rest := by
  refine scan_cons_of_silent rest ?_
  rw [Pending.step, hexDigit?_digitChar digit small]
  rfl

theorem scan_code {n : Nat} (control : n < 0x20) (rest : List Char) :
    scan (.text letters) ('\\' :: 'u' :: '0' :: '0' :: Nat.digitChar (n / 16) ::
        Nat.digitChar (n % 16) :: rest) = scan (.text (letters ++ [Char.ofNat n])) rest := by
  have value : 16 * (n / 16) + n % 16 = n := Nat.div_add_mod n 16
  have valid : n.isValidChar := Or.inl (by omega)
  have last : (Pending.code letters (n / 16) 0).step (Nat.digitChar (n % 16)) =
      some ([], .text (letters ++ [Char.ofNat n])) := by
    rw [Pending.step, hexDigit?_digitChar _ (by omega)]
    simp only [Option.bind_eq_bind, Option.bind_some, value, valid, if_true]
    rfl
  rw [scan_cons_of_silent _ (show Pending.step _ _ = some ([], .escape letters) from rfl),
    scan_cons_of_silent _ (show Pending.step _ _ = some ([], .code letters 0 3) from rfl),
    show '0' = Nat.digitChar 0 from rfl, scan_code_digit letters (by decide),
    scan_code_digit letters (by decide), scan_code_digit letters (by omega)]
  simp only [Nat.mul_zero, Nat.add_zero, Nat.zero_add]
  exact scan_cons_of_silent rest last

/-- **Every character of a text is read back**, whether it had to be escaped or not. -/
theorem scan_escape (c : Char) (rest : List Char) :
    scan (.text letters) (escape c ++ rest) = scan (.text (letters ++ [c])) rest := by
  unfold escape
  -- seven characters have a letter of their own
  iterate 7
    split
    · subst c
      exact scan_backslash letters rfl (by decide) rest
  split
  · rename_i control
    rw [List.cons_append]
    have read := scan_code letters control rest
    rwa [Char.ofNat_toNat] at read
  · rename_i noQuote noBackslash _ _ _ _ _ noControl
    refine scan_cons_of_silent rest ?_
    rw [Pending.step, if_neg noQuote, if_neg noBackslash, if_neg noControl]

theorem scan_flatMap_escape (cs rest : List Char) :
    scan (.text letters) (cs.flatMap escape ++ '"' :: rest) =
      (scan .nothing rest).map (.text (String.ofList (letters ++ cs)) :: ·) := by
  induction cs generalizing letters with
  | nil =>
      rw [List.append_nil]
      exact scan_cons_of_token rest rfl
  | cons c cs ih =>
      rw [List.flatMap_cons, List.append_assoc, scan_escape, ih, List.append_assoc]
      rfl

end Texts

theorem scan_quoted (s : String) (rest : List Char) :
    scan .nothing (quoted s ++ rest) = (scan .nothing rest).map (.text s :: ·) := by
  have opens : Pending.nothing.step '"' = some ([], .text []) := rfl
  rw [quoted, List.cons_append, List.cons_append, scan_cons_of_silent _ opens, List.append_assoc,
    List.singleton_append, scan_flatMap_escape, List.nil_append, String.ofList_toList]

/-! ### Words, marks and blanks -/

/-- Nothing follows that could belong to a word. -/
def Delimited (rest : List Char) : Prop :=
  ∀ c, rest.head? = some c → role c ≠ .letter

theorem scan_word_of_delimited {letters : List Char} {token : Token}
    (stands : Token.ofLetters? letters = some token) {rest : List Char} (delimited : Delimited rest) :
    scan (.word letters) rest = (scan .nothing rest).map (token :: ·) := by
  cases rest with
  | nil =>
      have ends : (Pending.word letters).close = some [token] := by
        rw [Pending.close, stands]
        rfl
      rw [scan, ends]
      rfl
  | cons c rest =>
      have ends : (Pending.word letters).step c =
          some (token :: (Pending.begin c).1, (Pending.begin c).2) := by
        rw [Pending.step]
        split
        · rename_i isLetter
          exact absurd isLetter (delimited c rfl)
        · rw [stands]
          rfl
      rw [scan, ends, scan, Pending.step, Option.bind_some, Option.bind_some, Option.map_map]
      rfl

theorem scan_word_append {word : List Char} (isWord : word.all (role · = .letter) = true)
    (letters rest : List Char) :
    scan (.word letters) (word ++ rest) = scan (.word (letters ++ word)) rest := by
  induction word generalizing letters with
  | nil => rw [List.nil_append, List.append_nil]
  | cons c word ih =>
      rw [List.all_cons, Bool.and_eq_true, decide_eq_true_eq] at isWord
      have longer : (Pending.word letters).step c = some ([], .word (letters ++ [c])) := by
        rw [Pending.step, isWord.1]
      rw [List.cons_append, scan_cons_of_silent _ longer, ih isWord.2, List.append_assoc]
      rfl

/-- **A word is read as the token that it stands for**, if it ends where its letters end. -/
theorem scan_letters {word : List Char} {token : Token} (stands : Token.ofLetters? word = some token)
    (nonempty : word ≠ []) (isWord : word.all (role · = .letter) = true) {rest : List Char}
    (delimited : Delimited rest) :
    scan .nothing (word ++ rest) = (scan .nothing rest).map (token :: ·) := by
  obtain ⟨c, word, rfl⟩ := List.exists_cons_of_ne_nil nonempty
  rw [List.all_cons, Bool.and_eq_true, decide_eq_true_eq] at isWord
  have begins : Pending.nothing.step c = some ([], .word [c]) := by
    rw [Pending.step, Pending.begin, isWord.1]
  rw [List.cons_append, scan_cons_of_silent _ begins, scan_word_append isWord.2]
  exact scan_word_of_delimited stands delimited

theorem role_of_isDigit {c : Char} (digit : c.isDigit = true) : role c = .letter := by
  unfold role
  split <;> first | rfl | exact absurd digit (by decide)

theorem all_letters_toDigits (n : Nat) : (Nat.toDigits 10 n).all (role · = .letter) = true := by
  rw [List.all_eq_true]
  intro c member
  rw [decide_eq_true_eq]
  exact role_of_isDigit (Nat.isDigit_of_mem_toDigits (by decide) (by decide) member)

/-- A number is no truth value. -/
theorem ofLetters?_toDigits (n : Nat) : Token.ofLetters? (Nat.toDigits 10 n) = some (.number n) := by
  have differs : ∀ word : List Char, ∀ c ∈ word, c.isDigit = false → Nat.toDigits 10 n ≠ word := by
    rintro word c member other rfl
    rw [← Nat.toList_repr] at member
    exact Text.Decimal.not_mem_repr other n member
  have read := Text.Decimal.readDigits?_repr n
  rw [Nat.toList_repr] at read
  rw [Token.ofLetters?, if_neg (differs _ 't' (by decide) rfl), if_neg (differs _ 'f' (by decide) rfl),
    read]
  rfl

theorem scan_mark {c : Char} {token : Token} (marks : role c = .mark token) (rest : List Char) :
    scan .nothing (c :: rest) = (scan .nothing rest).map (token :: ·) := by
  refine scan_cons_of_token rest ?_
  rw [Pending.step, Pending.begin, marks]

theorem scan_blank {c : Char} (blank : role c = .blank) (rest : List Char) :
    scan .nothing (c :: rest) = scan .nothing rest := by
  refine scan_cons_of_silent rest ?_
  rw [Pending.step, Pending.begin, blank]

theorem scan_newline (level : Nat) (rest : List Char) :
    scan .nothing (newline level ++ rest) = scan .nothing rest := by
  have blanks : ∀ count, scan .nothing (List.replicate count ' ' ++ rest) = scan .nothing rest := by
    intro count
    induction count with
    | zero => rfl
    | succ count ih =>
        rw [List.replicate_succ, List.cons_append, scan_blank rfl, ih]
  rw [newline, List.cons_append, scan_blank rfl, blanks]

/-! ### Values -/

mutual

/-- The tokens of a value. -/
def tokens : Json → List Token
  | text value => [.text value]
  | number value => [.number value]
  | bool value => [.bool value]
  | list [] => [.openList, .closeList]
  | list (item :: items) => .openList :: tokens item ++ itemTokens items ++ [.closeList]
  | record [] => [.openRecord, .closeRecord]
  | record ((name, value) :: fields) =>
    .openRecord :: .text name :: .colon :: tokens value ++ fieldTokens fields ++ [.closeRecord]

/-- The tokens of the items after the first. -/
def itemTokens : List Json → List Token
  | [] => []
  | item :: items => .comma :: tokens item ++ itemTokens items

/-- The tokens of the fields after the first. -/
def fieldTokens : List (String × Json) → List Token
  | [] => []
  | (name, value) :: fields => .comma :: .text name :: .colon :: tokens value ++ fieldTokens fields

end

section Delimited

theorem delimited_cons {c : Char} (separates : role c ≠ .letter) (rest : List Char) :
    Delimited (c :: rest) := by
  rintro _ ⟨rfl⟩
  exact separates

variable (level : Nat) {rest : List Char}

theorem delimited_newline : Delimited (newline level ++ rest) :=
  delimited_cons (by decide) _

theorem delimited_moreItems (items : List Json) (delimited : Delimited rest) :
    Delimited (moreItems level items ++ rest) := by
  cases items with
  | nil =>
      rw [moreItems]
      exact delimited
  | cons item items =>
      rw [moreItems]
      exact delimited_cons (by decide) _

theorem delimited_moreFields (fields : List (String × Json)) (delimited : Delimited rest) :
    Delimited (moreFields level fields ++ rest) := by
  cases fields with
  | nil =>
      rw [moreFields]
      exact delimited
  | cons field fields =>
      rw [moreFields]
      exact delimited_cons (by decide) _

end Delimited

theorem scan_name (name : String) (rest : List Char) :
    scan .nothing (quoted name ++ ':' :: ' ' :: rest) =
      (scan .nothing rest).map (.text name :: .colon :: ·) := by
  rw [scan_quoted, scan_mark rfl, scan_blank rfl, Option.map_map]
  rfl

mutual

/-- **The characters of a value are cut into its tokens.** -/
theorem scan_chars (level : Nat) (value : Json) {rest : List Char} (delimited : Delimited rest) :
    scan .nothing (chars level value ++ rest) = (scan .nothing rest).map (tokens value ++ ·) := by
  match value with
  | text value =>
      rw [chars, tokens]
      exact scan_quoted value rest
  | number value =>
      rw [chars, tokens]
      exact scan_letters (ofLetters?_toDigits value) Nat.toDigits_ne_nil (all_letters_toDigits value)
        delimited
  | bool true =>
      rw [chars, tokens]
      exact scan_letters rfl (by decide) (by decide) delimited
  | bool false =>
      rw [chars, tokens]
      exact scan_letters rfl (by decide) (by decide) delimited
  | list [] =>
      rw [chars, tokens, List.cons_append, List.cons_append, List.nil_append,
        scan_mark rfl, scan_mark rfl, Option.map_map]
      rfl
  | list (item :: items) =>
      have closes : Delimited (newline level ++ ']' :: rest) := delimited_newline level
      simp only [chars, tokens, List.cons_append, List.append_assoc, List.nil_append]
      rw [scan_mark rfl, scan_newline,
        scan_chars (level + 1) item (delimited_moreItems _ items closes),
        scan_moreItems (level + 1) items closes, scan_newline, scan_mark rfl]
      simp only [Option.map_map, Function.comp_def]
  | record [] =>
      rw [chars, tokens, List.cons_append, List.cons_append, List.nil_append,
        scan_mark rfl, scan_mark rfl, Option.map_map]
      rfl
  | record ((name, value) :: fields) =>
      have closes : Delimited (newline level ++ '\x7d' :: rest) := delimited_newline level
      simp only [chars, tokens, List.cons_append, List.append_assoc, List.nil_append]
      rw [scan_mark rfl, scan_newline, scan_name,
        scan_chars (level + 1) value (delimited_moreFields _ fields closes),
        scan_moreFields (level + 1) fields closes, scan_newline, scan_mark rfl]
      simp only [Option.map_map, Function.comp_def]

theorem scan_moreItems (level : Nat) (items : List Json) {rest : List Char}
    (delimited : Delimited rest) :
    scan .nothing (moreItems level items ++ rest) =
      (scan .nothing rest).map (itemTokens items ++ ·) := by
  match items with
  | [] =>
      rw [moreItems, itemTokens]
      exact Option.map_id'.symm
  | item :: items =>
      simp only [moreItems, itemTokens, List.cons_append, List.append_assoc]
      rw [scan_mark rfl, scan_newline,
        scan_chars level item (delimited_moreItems _ items delimited),
        scan_moreItems level items delimited]
      simp only [Option.map_map, Function.comp_def]

theorem scan_moreFields (level : Nat) (fields : List (String × Json)) {rest : List Char}
    (delimited : Delimited rest) :
    scan .nothing (moreFields level fields ++ rest) =
      (scan .nothing rest).map (fieldTokens fields ++ ·) := by
  match fields with
  | [] =>
      rw [moreFields, fieldTokens]
      exact Option.map_id'.symm
  | (name, value) :: fields =>
      simp only [moreFields, fieldTokens, List.cons_append, List.append_assoc, List.nil_append]
      rw [scan_mark rfl, scan_newline, scan_name,
        scan_chars level value (delimited_moreFields _ fields delimited),
        scan_moreFields level fields delimited]
      simp only [Option.map_map, Function.comp_def]

end

end SinglePath.Json
