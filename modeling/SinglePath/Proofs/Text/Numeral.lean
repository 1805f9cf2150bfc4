/-
**Numerals: which texts are read as numbers, and how numbers are written.**

* `readDigits?_eq_some_iff` — one or more decimal digits, with their value;
* `readNat?_eq_some_iff` — a number below a bound is read from its numerals and from nothing else;
* `readInt?_eq_some_iff` — a number in a range is read from its signed numerals and from nothing else;
* `readDigits?_repr`, `signedNumeral_ofInt` — a number is read back from what it is written with.
-/

import SinglePath.Text.Decimal

namespace SinglePath.Text.Decimal

theorem valueOf_eq_ofDigitChars (digits : List Char) :
    valueOf digits = Nat.ofDigitChars 10 digits 0 := by
  rw [Nat.ofDigitChars_eq_foldl]
  rfl

/-- Digits, and nothing but digits, are read as their value. -/
theorem readDigits?_eq_some_iff {cs : List Char} {value : Nat} :
    readDigits? cs = some value ↔
      cs ≠ [] ∧ (∀ c ∈ cs, c.isDigit = true) ∧ Nat.ofDigitChars 10 cs 0 = value := by
  unfold readDigits?
  rw [valueOf_eq_ofDigitChars]
  split
  · rename_i refused
    simp only [Bool.or_eq_true, List.isEmpty_iff, Bool.not_eq_true', List.all_eq_false] at refused
    constructor
    · intro read
      cases read
    · rintro ⟨nonempty, digits, _⟩
      rcases refused with empty | ⟨c, member, notDigit⟩
      · exact absurd empty nonempty
      · exact absurd (digits c member) notDigit
  · rename_i accepted
    simp only [Bool.or_eq_true, not_or, List.isEmpty_iff, Bool.not_eq_true', Bool.not_eq_false,
      List.all_eq_true] at accepted
    rw [Option.some.injEq]
    exact ⟨fun same => ⟨accepted.1, accepted.2, same⟩, fun numeral => numeral.2.2⟩

/-- A numeral: an optional plus sign, and one or more decimal digits that have the value. -/
def Numeral (text : String) (value : Nat) : Prop :=
  ∃ sign digits, text.toList = sign ++ digits ∧ (sign = [] ∨ sign = ['+']) ∧ digits ≠ [] ∧
    (∀ c ∈ digits, c.isDigit = true) ∧ Nat.ofDigitChars 10 digits 0 = value

/-- Digits after an optional plus sign are read, and nothing else. -/
theorem readUnsigned?_eq_some_iff {text : String} {value : Nat} :
    readUnsigned? text.toList = some value ↔ Numeral text value := by
  unfold Numeral
  constructor
  · intro read
    unfold readUnsigned? at read
    split at read
    · rename_i digits shape
      exact ⟨['+'], digits, shape, Or.inr rfl, readDigits?_eq_some_iff.mp read⟩
    · exact ⟨[], text.toList, rfl, Or.inl rfl, readDigits?_eq_some_iff.mp read⟩
  · rintro ⟨sign, digits, shape, signed | signed, numeral⟩
    · subst signed
      rw [shape, List.nil_append]
      obtain ⟨first, rest, rfl⟩ := List.exists_cons_of_ne_nil numeral.1
      -- a digit is no plus sign, so the digits are read as they stand
      have notSign : first ≠ '+' := by
        rintro rfl
        exact absurd (numeral.2.1 '+' (List.mem_cons_self ..)) (by decide)
      unfold readUnsigned?
      split
      · rename_i digits shape
        injection shape with isSign
        exact absurd isSign notSign
      · exact readDigits?_eq_some_iff.mpr numeral
    · subst signed
      rw [shape]
      exact readDigits?_eq_some_iff.mpr numeral

/-- **A number below a bound is read from its numerals**, and from nothing else. -/
theorem readNat?_eq_some_iff {bound : Nat} {text : String} {value : Nat} :
    readNat? bound text = some value ↔ Numeral text value ∧ value < bound := by
  unfold readNat?
  rw [Option.filter_eq_some_iff, readUnsigned?_eq_some_iff, decide_eq_true_eq]

/-! ### Signed numbers -/

/-- A signed numeral: an optional sign, and one or more decimal digits that have the value, or with a
minus sign its opposite. -/
def SignedNumeral (text : List Char) (value : Int) : Prop :=
  ∃ sign digits, text = sign ++ digits ∧ digits ≠ [] ∧ (∀ c ∈ digits, c.isDigit = true) ∧
    ((sign = [] ∨ sign = ['+']) ∧ value = (Nat.ofDigitChars 10 digits 0 : Int) ∨
      sign = ['-'] ∧ value = -(Nat.ofDigitChars 10 digits 0 : Int))

theorem readSigned?_of_digits {digits : List Char} {value : Nat}
    (read : readDigits? digits = some value) : readSigned? digits = some (value : Int) := by
  obtain ⟨nonempty, areDigits, -⟩ := readDigits?_eq_some_iff.mp read
  obtain ⟨first, rest, rfl⟩ := List.exists_cons_of_ne_nil nonempty
  have isDigit := areDigits first (List.mem_cons_self ..)
  -- a digit is no sign, so the digits are read as they stand
  unfold readSigned?
  split
  · rename_i isSign
    cases isSign
    exact absurd isDigit (by decide)
  · rename_i isSign
    cases isSign
    exact absurd isDigit (by decide)
  · rw [read]
    rfl

theorem readSigned?_eq_some_iff {text : List Char} {value : Int} :
    readSigned? text = some value ↔ SignedNumeral text value := by
  constructor
  · intro read
    unfold readSigned? at read
    split at read
    all_goals
      obtain ⟨size, digits, rfl⟩ := Option.map_eq_some_iff.mp read
      obtain ⟨nonempty, areDigits, rfl⟩ := readDigits?_eq_some_iff.mp digits
    · exact ⟨['+'], _, rfl, nonempty, areDigits, Or.inl ⟨Or.inr rfl, rfl⟩⟩
    · exact ⟨['-'], _, rfl, nonempty, areDigits, Or.inr ⟨rfl, rfl⟩⟩
    · exact ⟨[], _, rfl, nonempty, areDigits, Or.inl ⟨Or.inl rfl, rfl⟩⟩
  · rintro ⟨sign, digits, rfl, nonempty, areDigits, signed⟩
    have read := readDigits?_eq_some_iff.mpr ⟨nonempty, areDigits, rfl⟩
    rcases signed with ⟨rfl | rfl, rfl⟩ | ⟨rfl, rfl⟩
    · exact readSigned?_of_digits read
    · show (readDigits? digits).map Int.ofNat = _
      rw [read]
      rfl
    · show (readDigits? digits).map (fun value => -(Int.ofNat value)) = _
      rw [read]
      rfl

/-- **A number in a range is read from its signed numerals**, and from nothing else. -/
theorem readInt?_eq_some_iff {low high : Int} {text : String} {value : Int} :
    readInt? low high text = some value ↔
      SignedNumeral text.toList value ∧ low ≤ value ∧ value ≤ high := by
  unfold readInt?
  rw [Option.filter_eq_some_iff, readSigned?_eq_some_iff, Bool.and_eq_true, decide_eq_true_eq,
    decide_eq_true_eq]

/-! ### Numbers that are read back -/

/-- A number is read back from the digits it is written with. -/
theorem readDigits?_repr (n : Nat) : readDigits? n.repr.toList = some n := by
  rw [Nat.toList_repr, readDigits?_eq_some_iff]
  exact ⟨Nat.toDigits_ne_nil,
    fun c member => Nat.isDigit_of_mem_toDigits (by decide) (by decide) member,
    Nat.ofDigitChars_ten_toDigits⟩

theorem numeral_ofNat (n : Nat) : Numeral (ofNat n) n :=
  ⟨[], _, rfl, Or.inl rfl, readDigits?_eq_some_iff.mp (readDigits?_repr n)⟩

theorem signedNumeral_ofInt (n : Int) : SignedNumeral (ofInt n).toList n := by
  cases n with
  | ofNat n =>
      obtain ⟨nonempty, digits, value⟩ := readDigits?_eq_some_iff.mp (readDigits?_repr n)
      exact ⟨[], n.repr.toList, rfl, nonempty, digits,
        Or.inl ⟨Or.inl rfl, congrArg Int.ofNat value.symm⟩⟩
  | negSucc n =>
      obtain ⟨nonempty, digits, value⟩ := readDigits?_eq_some_iff.mp (readDigits?_repr (n + 1))
      have written : (ofInt (.negSucc n)).toList = ['-'] ++ (n + 1).repr.toList := by
        simp [ofInt]
      refine ⟨['-'], (n + 1).repr.toList, written, nonempty, digits, Or.inr ⟨rfl, ?_⟩⟩
      rw [value]
      rfl

/-- A number is written with digits only. -/
theorem not_mem_repr {c : Char} (other : c.isDigit = false) (n : Nat) : c ∉ n.repr.toList := by
  intro member
  have digits := (readDigits?_eq_some_iff.mp (readDigits?_repr n)).2.1
  rw [digits c member] at other
  cases other

end SinglePath.Text.Decimal
