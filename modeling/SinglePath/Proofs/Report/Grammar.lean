/-
**The grammar of simulator reports.**

* `Layout` — the lines of a report divided by what they are for, from the lines above the instruction
  table to those below the profiling table;
* `Layout.Denotes` — the division follows the grammar and stands for a list of statistics: one for every
  row of the instruction table, one for the cycle count, one for every profiled function;
* `Layout.Denotes.unique` — a list of lines can be divided in one way at most, so it stands for one list
  of statistics.

The grammar says nothing about how a report is read: each part ends at the first line of a kind, and
everything else is free.
-/

import Mathlib.Data.List.Forall2
import SinglePath.Proofs.Text.Numeral
import SinglePath.Statistics.Report

namespace SinglePath.Report

open Text.Decimal (Numeral)

/-! ### Single lines -/

/-- A line that begins with a marker, padding apart. -/
def Begins (marker line : String) : Prop :=
  marker.toList <+: (Text.trim line).toList

/-- A row of the instruction table: at least five fields, with the instruction in the first one and
fetch counts in the second and the fifth. -/
inductive FetchRow (line : String) : Statistic → Prop where
  | intro {instruction f₁ f₂ f₃ f₄ : String} {more : List String} {a b : Nat}
      (fields : Text.fields line = instruction :: f₁ :: f₂ :: f₃ :: f₄ :: more)
      (first : Numeral f₁ a) (second : Numeral f₄ b) (bound : a + b < UInt64.size) :
      FetchRow line (.fetch instruction (a + b))

/-- The line of the cycle count: a label, the count, and possibly more. -/
inductive CycleRow (line : String) : Statistic → Prop where
  | intro {label count : String} {more : List String}
      (fields : Text.fields line = label :: count :: more) : CycleRow line (.cycles label count)

/-- The three lines about a profiled function. -/
structure Profile where
  /-- The line that names the function. -/
  opening : String
  /-- A line of figures. -/
  figures : String
  /-- The line with the number of calls. -/
  invocations : String

/-- The lines of a profile. -/
def Profile.lines (p : Profile) : List String :=
  [p.opening, p.figures, p.invocations]

/-- A profile: its first line names the function after an opening bracket, up to a closing one or the
end of the line, and its third line begins with the number of calls. -/
inductive Profile.Denotes (p : Profile) : Statistic → Prop where
  | intro {name after : List Char} {count : String} {more : List String}
      (opens : (Text.trim p.opening).toList = '<' :: (name ++ after))
      (inside : '>' ∉ name) (closes : after = [] ∨ ∃ rest, after = '>' :: rest)
      (fields : Text.fields p.invocations = count :: more) :
      p.Denotes (.calls (String.ofList name) count)

/-! ### Whole reports -/

/-- The lines of a report by what they are for. -/
@[ext]
structure Layout where
  /-- The lines above the instruction table. -/
  preamble : List String
  /-- The header of the instruction table. -/
  header : String
  /-- The column titles of the instruction table. -/
  columns : String
  /-- The rows of the instruction table. -/
  rows : List String
  /-- The row that ends the instruction table. -/
  totals : String
  /-- The lines up to the cycle count. -/
  beforeCycles : List String
  /-- The cycle count. -/
  cycles : String
  /-- The lines up to the profiling table. -/
  beforeProfiling : List String
  /-- The header of the profiling table. -/
  profiling : String
  /-- The three title rows of the profiling table. -/
  firstTitle : String
  secondTitle : String
  thirdTitle : String
  /-- The profiles. -/
  profiles : List Profile
  /-- The lines below. -/
  remainder : List String

/-- The lines of a report, in order. -/
def Layout.lines (l : Layout) : List String :=
  l.preamble ++ l.header :: l.columns :: (l.rows ++ l.totals :: (l.beforeCycles ++ l.cycles ::
    (l.beforeProfiling ++ l.profiling :: l.firstTitle :: l.secondTitle :: l.thirdTitle ::
      (l.profiles.flatMap Profile.lines ++ l.remainder))))

/-- A division of the lines of a report that follows the grammar, and the statistics it stands for. -/
structure Layout.Denotes (l : Layout) (entries : List Statistic) : Prop where
  /-- Neither the instruction table nor an option summary begins above. -/
  preamble : ∀ line ∈ l.preamble,
    Text.trim line ≠ instructionHeader ∧ Text.trim line ≠ optionsHeader
  header : Text.trim l.header = instructionHeader
  rows : ∀ line ∈ l.rows, ¬ Begins totalsMarker line
  totals : Begins totalsMarker l.totals
  beforeCycles : ∀ line ∈ l.beforeCycles, ¬ Begins cyclesMarker line
  cycles : Begins cyclesMarker l.cycles
  beforeProfiling : ∀ line ∈ l.beforeProfiling, ¬ Begins profilingMarker line
  profiling : Begins profilingMarker l.profiling
  /-- No further profile begins right below the last one. -/
  remainder : ∀ line ∈ l.remainder.head?, ¬ Begins "<" line
  /-- One statistic for every row, one for the cycle count, and one for every profile. -/
  entries : ∃ fetches cycle calls, entries = fetches ++ cycle :: calls ∧
    List.Forall₂ FetchRow l.rows fetches ∧ CycleRow l.cycles cycle ∧
    List.Forall₂ Profile.Denotes l.profiles calls

/-! ### A line stands for one statistic -/

theorem numeral_unique {text : String} {a b : Nat} (first : Numeral text a)
    (second : Numeral text b) : a = b := by
  rw [← Text.Decimal.readUnsigned?_eq_some_iff] at first second
  exact Option.some.inj (first.symm.trans second)

theorem fetchRow_unique : Relator.RightUnique FetchRow := by
  rintro line s t ⟨fields, first, second, _⟩ ⟨fields', first', second', _⟩
  rw [fields] at fields'
  cases fields'
  rw [numeral_unique first first', numeral_unique second second']

theorem cycleRow_unique : Relator.RightUnique CycleRow := by
  rintro line s t ⟨fields⟩ ⟨fields'⟩
  rw [fields] at fields'
  cases fields'
  rfl

/-- The name of a function ends before the first closing bracket. -/
theorem takeWhile_name {name after : List Char} (inside : '>' ∉ name)
    (closes : after = [] ∨ ∃ rest, after = '>' :: rest) :
    (name ++ after).takeWhile (· ≠ '>') = name := by
  rw [List.takeWhile_append_of_pos]
  · rcases closes with rfl | ⟨rest, rfl⟩ <;> simp
  · intro c member
    simp only [decide_eq_true_eq]
    rintro rfl
    exact inside member

theorem not_mem_takeWhile_name (cs : List Char) : '>' ∉ cs.takeWhile (· ≠ '>') := by
  induction cs with
  | nil => simp
  | cons c rest ih =>
      by_cases closing : c = '>'
      · simp [closing]
      · simpa [closing, Ne.symm closing] using ih

theorem dropWhile_name (cs : List Char) :
    cs.dropWhile (· ≠ '>') = [] ∨ ∃ rest, cs.dropWhile (· ≠ '>') = '>' :: rest := by
  induction cs with
  | nil => simp
  | cons c rest ih =>
      by_cases closing : c = '>'
      · simp [closing]
      · simpa [closing] using ih

/-- What a profile stands for, in terms of the text after the opening bracket. -/
theorem Profile.denotes_iff {p : Profile} {s : Statistic} :
    p.Denotes s ↔ ∃ rest count more, (Text.trim p.opening).toList = '<' :: rest ∧
      Text.fields p.invocations = count :: more ∧
      s = .calls (String.ofList (rest.takeWhile (· ≠ '>'))) count := by
  constructor
  · rintro ⟨opens, inside, closes, fields⟩
    exact ⟨_, _, _, opens, fields, by rw [takeWhile_name inside closes]⟩
  · rintro ⟨rest, count, more, opens, fields, rfl⟩
    refine ⟨?_, not_mem_takeWhile_name rest, dropWhile_name rest, fields⟩
    rw [List.takeWhile_append_dropWhile]
    exact opens

theorem Profile.denotes_unique : Relator.RightUnique Profile.Denotes := by
  intro p s t first second
  obtain ⟨rest, count, more, opens, fields, rfl⟩ := Profile.denotes_iff.mp first
  obtain ⟨rest', count', more', opens', fields', rfl⟩ := Profile.denotes_iff.mp second
  rw [opens] at opens'
  rw [fields] at fields'
  cases opens'
  cases fields'
  rfl

/-! ### A report is divided in one way -/

/-- A list is divided in one way at its first element of a kind. -/
theorem split_first_unique {α : Type} (kind : α → Prop) {before before' : List α} {x x' : α}
    {after after' : List α} (same : before ++ x :: after = before' ++ x' :: after')
    (none : ∀ y ∈ before, ¬ kind y) (found : kind x) (none' : ∀ y ∈ before', ¬ kind y)
    (found' : kind x') : before = before' ∧ x = x' ∧ after = after' := by
  induction before generalizing before' with
  | nil =>
      cases before' with
      | nil =>
          injection same with head tail
          exact ⟨rfl, head, tail⟩
      | cons y rest =>
          injection same with head
          exact absurd (head ▸ found) (none' y (List.mem_cons_self ..))
  | cons y before ih =>
      cases before' with
      | nil =>
          injection same with head
          exact absurd (head ▸ found') (none y (List.mem_cons_self ..))
      | cons y' before' =>
          injection same with head tail
          obtain ⟨rest, others⟩ := ih tail
            (fun z member => none z (List.mem_cons_of_mem _ member))
            (fun z member => none' z (List.mem_cons_of_mem _ member))
          exact ⟨by rw [head, rest], others⟩

theorem Profile.Denotes.begins {p : Profile} {s : Statistic} (denotes : p.Denotes s) :
    Begins "<" p.opening := by
  obtain ⟨rest, _, _, opens, _⟩ := Profile.denotes_iff.mp denotes
  unfold Begins
  rw [opens]
  exact ⟨rest, rfl⟩

/-- Profiles are read off in one way: as long as a line opens one. -/
theorem profiles_unique {profiles profiles' : List Profile} {remainder remainder' : List String}
    (same : profiles.flatMap Profile.lines ++ remainder =
      profiles'.flatMap Profile.lines ++ remainder')
    (opens : ∀ p ∈ profiles, Begins "<" p.opening)
    (ends : ∀ line ∈ remainder.head?, ¬ Begins "<" line)
    (opens' : ∀ p ∈ profiles', Begins "<" p.opening)
    (ends' : ∀ line ∈ remainder'.head?, ¬ Begins "<" line) :
    profiles = profiles' ∧ remainder = remainder' := by
  induction profiles generalizing profiles' with
  | nil =>
      cases profiles' with
      | nil => exact ⟨rfl, same⟩
      | cons p rest =>
          rw [List.flatMap_nil, List.nil_append] at same
          exact absurd (opens' p (List.mem_cons_self ..)) (ends p.opening (by rw [same]; rfl))
  | cons p rest ih =>
      cases profiles' with
      | nil =>
          rw [List.flatMap_nil, List.nil_append] at same
          exact absurd (opens p (List.mem_cons_self ..)) (ends' p.opening (by rw [← same]; rfl))
      | cons p' rest' =>
          obtain ⟨opening, figures, invocations⟩ := p
          obtain ⟨opening', figures', invocations'⟩ := p'
          simp only [List.flatMap_cons, Profile.lines, List.cons_append, List.nil_append,
            List.cons.injEq] at same
          obtain ⟨rfl, rfl, rfl, tail⟩ := same
          obtain ⟨profiles, remainders⟩ := ih tail
            (fun q member => opens q (List.mem_cons_of_mem _ member))
            (fun q member => opens' q (List.mem_cons_of_mem _ member))
          exact ⟨by rw [profiles], remainders⟩

theorem opens_of_denotes {profiles : List Profile} {calls : List Statistic}
    (denotes : List.Forall₂ Profile.Denotes profiles calls) :
    ∀ p ∈ profiles, Begins "<" p.opening := by
  induction denotes with
  | nil => simp
  | cons head _ ih => exact List.forall_mem_cons.mpr ⟨head.begins, ih⟩

/-- **A report is divided in one way**, and it stands for one list of statistics. -/
theorem Layout.Denotes.unique {l l' : Layout} {entries entries' : List Statistic}
    (same : l.lines = l'.lines) (denotes : l.Denotes entries) (denotes' : l'.Denotes entries') :
    l = l' ∧ entries = entries' := by
  obtain ⟨fetches, cycle, calls, rfl, rows, cycles, profiles⟩ := denotes.entries
  obtain ⟨fetches', cycle', calls', rfl, rows', cycles', profiles'⟩ := denotes'.entries
  -- part by part, each up to the first line of its kind
  obtain ⟨samePreamble, sameHeader, afterHeader⟩ :=
    split_first_unique (Text.trim · = instructionHeader) same
      (fun line member => (denotes.preamble line member).1) denotes.header
      (fun line member => (denotes'.preamble line member).1) denotes'.header
  injection afterHeader with sameColumns afterColumns
  obtain ⟨sameRows, sameTotals, afterTotals⟩ :=
    split_first_unique (Begins totalsMarker) afterColumns
      denotes.rows denotes.totals denotes'.rows denotes'.totals
  obtain ⟨sameBeforeCycles, sameCycles, afterCycles⟩ :=
    split_first_unique (Begins cyclesMarker) afterTotals
      denotes.beforeCycles denotes.cycles denotes'.beforeCycles denotes'.cycles
  obtain ⟨sameBeforeProfiling, sameProfiling, afterProfiling⟩ :=
    split_first_unique (Begins profilingMarker) afterCycles
      denotes.beforeProfiling denotes.profiling denotes'.beforeProfiling denotes'.profiling
  simp only [List.cons.injEq] at afterProfiling
  obtain ⟨sameFirst, sameSecond, sameThird, afterTitles⟩ := afterProfiling
  obtain ⟨sameProfiles, sameRemainder⟩ :=
    profiles_unique afterTitles (opens_of_denotes profiles) denotes.remainder
      (opens_of_denotes profiles') denotes'.remainder
  refine ⟨Layout.ext samePreamble sameHeader sameColumns sameRows sameTotals sameBeforeCycles
    sameCycles sameBeforeProfiling sameProfiling sameFirst sameSecond sameThird sameProfiles
    sameRemainder, ?_⟩
  rw [sameRows] at rows
  rw [sameCycles] at cycles
  rw [sameProfiles] at profiles
  rw [fetchRow_unique.forall₂ rows rows', cycleRow_unique cycles cycles',
    Profile.denotes_unique.forall₂ profiles profiles']

end SinglePath.Report
