/-
**Which texts are execution arguments, and what is wrong with the others.**

* `divide?_append`, `divide?_of_not_mem` — a text is divided at its first equals sign;
* `readCode_eq_some_iff` — an exit code is a signed numeral in range, between blanks;
* `parse_eq_ok_iff`, `parse_eq_error_iff` — an argument is read when the grammar assigns it one, and else
  refused for the first fault from the left;
* `parse_follows_grammar` — so is a list of arguments, with too few of them refused before any is read.
-/

import SinglePath.Proofs.Inputs
import SinglePath.Proofs.Report.Stages
import SinglePath.Proofs.Text.Words

namespace SinglePath.ExecutionArgument

open Text

/-! ### The grammar -/

/-- An argument that has a written form: its input is not empty and holds no equals sign, and its exit code
is a signed 32-bit number. -/
structure Writable (argument : ExecutionArgument) : Prop where
  nonempty : argument.input ≠ ""
  noSeparator : '=' ∉ argument.input.toList
  least : -2147483648 ≤ argument.expected
  greatest : argument.expected ≤ 2147483647

/-- The texts of an argument: its input, an equals sign, and a numeral for its exit code, between blanks. -/
def Written (text : String) (argument : ExecutionArgument) : Prop :=
  argument.Writable ∧ ∃ before numeral after,
    text.toList = argument.input.toList ++ '=' :: (before ++ numeral ++ after) ∧
    (∀ c ∈ before, isBlank c = true) ∧ (∀ c ∈ after, isBlank c = true) ∧
    Decimal.SignedNumeral numeral argument.expected

/-! ### The two sides of the equals sign -/

theorem divide?_append {input : List Char} (noSeparator : '=' ∉ input) (value : List Char) :
    divide? (input ++ '=' :: value) = some (input, value) := by
  have other : ∀ c ∈ input, decide (c ≠ '=') = true := by
    intro c member
    rw [decide_eq_true_eq]
    rintro rfl
    exact noSeparator member
  unfold divide?
  rw [List.dropWhile_append_of_pos other, List.takeWhile_append_of_pos other]
  simp

theorem divide?_of_not_mem {cs : List Char} (noSeparator : '=' ∉ cs) : divide? cs = none := by
  have dropped : cs.dropWhile (· ≠ '=') = [] := by
    rw [List.dropWhile_eq_nil_iff]
    intro c member
    rw [decide_eq_true_eq]
    rintro rfl
    exact noSeparator member
  unfold divide?
  rw [dropped]

/-- The first equals sign is missing, or the first character, or has an input before it. -/
theorem division_cases (text : String) :
    '=' ∉ text.toList ∨ text.toList.head? = some '=' ∨
      ∃ input value : String, text = input ++ "=" ++ value ∧ input ≠ "" ∧ '=' ∉ input.toList := by
  by_cases separated : '=' ∈ text.toList
  · obtain ⟨input, value, shape, noSeparator⟩ := List.eq_append_cons_of_mem separated
    by_cases empty : input = []
    · rw [empty] at shape
      exact Or.inr (Or.inl (by rw [shape]; rfl))
    · refine Or.inr (Or.inr ⟨String.ofList input, String.ofList value, ?_, ?_, ?_⟩)
      · apply String.toList_inj.mp
        simp [shape]
      · rwa [Ne, ← String.toList_eq_nil_iff, String.toList_ofList]
      · rwa [String.toList_ofList]
  · exact Or.inl separated

/-! ### The exit code -/

/-- An exit code is a signed numeral in range, between blanks. -/
theorem readCode_eq_some_iff {value : String} {code : Int} :
    Decimal.readInt? leastCode greatestCode (trim value) = some code ↔
      (-2147483648 ≤ code ∧ code ≤ 2147483647) ∧ ∃ before numeral after,
        value.toList = before ++ numeral ++ after ∧ (∀ c ∈ before, isBlank c = true) ∧
        (∀ c ∈ after, isBlank c = true) ∧ Decimal.SignedNumeral numeral code := by
  rw [Decimal.readInt?_eq_some_iff, trim, String.toList_ofList]
  constructor
  · rintro ⟨numeral, inRange⟩
    obtain ⟨before, after, shape, blankBefore, blankAfter⟩ := Chars.exists_padding value.toList
    exact ⟨inRange, before, _, after, shape, blankBefore, blankAfter, numeral⟩
  · rintro ⟨inRange, before, text, after, shape, blankBefore, blankAfter, numeral⟩
    obtain ⟨nonempty, solid⟩ := numeral.solid
    rw [shape, Chars.trim_padded blankBefore blankAfter solid nonempty]
    exact ⟨numeral, inRange⟩

/-! ### One argument -/

theorem parse_of_not_mem {text : String} (noSeparator : '=' ∉ text.toList) :
    parse text = .error (.missingSeparator text) := by
  unfold parse
  rw [divide?_of_not_mem noSeparator]

theorem parse_of_head {text : String} (first : text.toList.head? = some '=') :
    parse text = .error (.emptyInput text) := by
  obtain ⟨value, shape⟩ : ∃ value, text.toList = [] ++ '=' :: value := List.head?_eq_some_iff.mp first
  unfold parse
  rw [shape, divide?_append List.not_mem_nil]
  rfl

section Divided

variable {text input value : String} (divided : text = input ++ "=" ++ value)
  (noSeparator : '=' ∉ input.toList)

include divided

theorem toList_of_divided : text.toList = input.toList ++ '=' :: value.toList := by
  rw [divided]
  simp

include noSeparator

/-- What follows the equals sign decides, if anything stands before it. -/
theorem parse_of_divided (nonempty : input ≠ "") :
    (∀ expected, Decimal.readInt? leastCode greatestCode (trim value) = some expected →
      parse text = .ok ⟨input, expected⟩) ∧
    (Decimal.readInt? leastCode greatestCode (trim value) = none →
      parse text = .error (.invalidExpected text value)) := by
  have notEmpty : ¬ input.toList.isEmpty = true := by
    rwa [List.isEmpty_iff, String.toList_eq_nil_iff]
  unfold parse
  rw [toList_of_divided divided, divide?_append noSeparator]
  simp only [if_neg notEmpty, String.ofList_toList]
  constructor
  · intro expected read
    rw [read]
  · intro unread
    rw [unread]

/-- Both sides of the equals sign can be told from the text of an argument. -/
theorem written_iff_of_divided {argument : ExecutionArgument} :
    Written text argument ↔ argument.input = input ∧ input ≠ "" ∧
      Decimal.readInt? leastCode greatestCode (trim value) = some argument.expected := by
  unfold Written
  rw [readCode_eq_some_iff, toList_of_divided divided]
  constructor
  · rintro ⟨writable, before, numeral, after, shape, written⟩
    have sides := (divide?_append noSeparator value.toList).symm.trans
      ((congrArg divide? shape).trans (divide?_append writable.noSeparator _))
    obtain ⟨sameInput, sameValue⟩ := Prod.mk.inj (Option.some.inj sides)
    have isInput : argument.input = input := String.toList_inj.mp sameInput.symm
    exact ⟨isInput, isInput ▸ writable.nonempty, ⟨writable.least, writable.greatest⟩, before, numeral,
      after, sameValue, written⟩
  · rintro ⟨rfl, nonempty, ⟨least, greatest⟩, before, numeral, after, shape, written⟩
    refine ⟨⟨nonempty, noSeparator, least, greatest⟩, before, numeral, after, ?_, written⟩
    rw [shape]

theorem unread_of_unwritten (nonempty : input ≠ "") (unwritten : ∀ argument, ¬ Written text argument) :
    Decimal.readInt? leastCode greatestCode (trim value) = none := by
  cases read : Decimal.readInt? leastCode greatestCode (trim value) with
  | none => rfl
  | some expected =>
      exact absurd ((written_iff_of_divided divided noSeparator).mpr ⟨rfl, nonempty, read⟩)
        (unwritten ⟨input, expected⟩)

end Divided

theorem Written.divided {text : String} {argument : ExecutionArgument}
    (written : Written text argument) : ∃ value, text = argument.input ++ "=" ++ value := by
  obtain ⟨-, before, numeral, after, shape, -⟩ := written
  refine ⟨String.ofList (before ++ numeral ++ after), String.toList_inj.mp ?_⟩
  rw [shape]
  simp

/-- **An argument is read when the grammar assigns it one.** -/
theorem parse_eq_ok_iff {text : String} {argument : ExecutionArgument} :
    parse text = .ok argument ↔ Written text argument := by
  constructor
  · intro gave
    rcases division_cases text with noSeparator | first | ⟨input, value, divided, nonempty, noSeparator⟩
    · rw [parse_of_not_mem noSeparator] at gave
      cases gave
    · rw [parse_of_head first] at gave
      cases gave
    · obtain ⟨readable, unreadable⟩ := parse_of_divided divided noSeparator nonempty
      cases read : Decimal.readInt? leastCode greatestCode (trim value) with
      | none =>
          rw [unreadable read] at gave
          cases gave
      | some expected =>
          rw [readable expected read] at gave
          cases gave
          exact (written_iff_of_divided divided noSeparator).mpr ⟨rfl, nonempty, read⟩
  · intro written
    obtain ⟨value, divided⟩ := written.divided
    have noSeparator := written.1.noSeparator
    obtain ⟨-, nonempty, read⟩ := (written_iff_of_divided divided noSeparator).mp written
    exact (parse_of_divided divided noSeparator nonempty).1 argument.expected read

/-- **An argument is refused for the first fault from the left**: there is no equals sign, nothing before
it, or no exit code after it. -/
theorem parse_eq_error_iff {text : String} {error : ArgumentError} :
    parse text = .error error ↔
      '=' ∉ text.toList ∧ error = .missingSeparator text ∨
      text.toList.head? = some '=' ∧ error = .emptyInput text ∨
      ∃ input value, text = input ++ "=" ++ value ∧ input ≠ "" ∧ '=' ∉ input.toList ∧
        (∀ argument, ¬ Written text argument) ∧ error = .invalidExpected text value := by
  constructor
  · intro refused
    have unwritten : ∀ argument, ¬ Written text argument := by
      intro argument written
      rw [parse_eq_ok_iff.mpr written] at refused
      cases refused
    rcases division_cases text with noSeparator | first | ⟨input, value, divided, nonempty, noSeparator⟩
    · rw [parse_of_not_mem noSeparator] at refused
      exact Or.inl ⟨noSeparator, (Except.error.inj refused).symm⟩
    · rw [parse_of_head first] at refused
      exact Or.inr (Or.inl ⟨first, (Except.error.inj refused).symm⟩)
    · have unread := unread_of_unwritten divided noSeparator nonempty unwritten
      rw [(parse_of_divided divided noSeparator nonempty).2 unread] at refused
      exact Or.inr (Or.inr ⟨input, value, divided, nonempty, noSeparator, unwritten,
        (Except.error.inj refused).symm⟩)
  · rintro (⟨noSeparator, rfl⟩ | ⟨first, rfl⟩ |
      ⟨input, value, divided, nonempty, noSeparator, unwritten, rfl⟩)
    · exact parse_of_not_mem noSeparator
    · exact parse_of_head first
    · exact (parse_of_divided divided noSeparator nonempty).2
        (unread_of_unwritten divided noSeparator nonempty unwritten)

/-! ### Lists of arguments -/

/-- **Execution arguments are read by their grammar.** A text is read as an argument exactly when it is one
of the texts of that argument, and any other is refused for its first fault, with all that follows the first
equals sign if that is no exit code. A list of texts is refused as such when it has less than two of them,
whatever they are, and else for the first of them that is refused; otherwise it is read item by item. -/
theorem parse_follows_grammar (text : String) (texts : List String) :
    (∀ argument, parse text = .ok argument ↔ Written text argument) ∧
    (∀ error, parse text = .error error ↔
      '=' ∉ text.toList ∧ error = .missingSeparator text ∨
      text.toList.head? = some '=' ∧ error = .emptyInput text ∨
      ∃ input value, text = input ++ "=" ++ value ∧ input ≠ "" ∧ '=' ∉ input.toList ∧
        (∀ argument, ¬ Written text argument) ∧ error = .invalidExpected text value) ∧
    (∀ arguments, parseAll texts = .ok arguments ↔
      2 ≤ texts.length ∧ List.Forall₂ Written texts arguments) ∧
    (∀ error, parseAll texts = .error error ↔
      texts.length < 2 ∧ error = .tooFew 2 texts.length ∨
      2 ≤ texts.length ∧ ∃ before bad after, texts = before ++ bad :: after ∧
        (∀ earlier ∈ before, ∃ argument, Written earlier argument) ∧ parse bad = .error error) ∧
    ((∃ required found, parseAll texts = .error (.tooFew required found)) ↔ texts.length < 2) := by
  refine ⟨fun argument => parse_eq_ok_iff, fun error => parse_eq_error_iff, fun arguments => ?_,
    fun error => ?_, ?_, fun few => ?_⟩
  · simp only [parseAll_eq_ok_iff, parse_eq_ok_iff, required]
  · simp only [parseAll_eq_error_iff, parse_eq_ok_iff, required]
  · rintro ⟨least, found, refused⟩
    rcases parseAll_eq_error_iff.mp refused with ⟨few, -⟩ | ⟨-, before, bad, after, -, -, refused⟩
    · exact few
    · -- no argument is refused because there are too few of them
      rcases parse_eq_error_iff.mp refused with ⟨-, other⟩ | ⟨-, other⟩ | ⟨_, _, -, -, -, -, other⟩
      all_goals cases other
  · exact ⟨2, texts.length, parseAll_eq_error_iff.mpr (Or.inl ⟨few, rfl⟩)⟩

end SinglePath.ExecutionArgument
