/-
**A report is read exactly when it follows the grammar.**

Each function that reads a part of a report has one lemma, which says which lines it accepts and what
it makes of them:

* `Line.fetchRow_eq_ok_iff`, `Line.cycleRow_eq_ok_iff` — single rows;
* `afterHeader_eq_ok_iff`, `fetchRows_eq_ok_iff`, `seek_eq_ok_iff`, `callRows_eq_ok_iff` — the sections;
* `read_eq_ok_iff` — a whole report, put together from its sections;
* `ofReport_eq_ok_iff` — the statistics of a text are those that the grammar assigns to its lines.
-/

import SinglePath.Proofs.Report.Grammar

namespace SinglePath.Report

open Text.Decimal (Numeral readNat?_eq_some_iff)

/-- Two steps succeed when the first one does and the second one does with what the first one gave. -/
theorem bind_eq_ok_iff {ε α β : Type} {step : Except ε α} {next : α → Except ε β} {result : β} :
    step >>= next = .ok result ↔ ∃ value, step = .ok value ∧ next value = .ok result := by
  cases step with
  | error failure =>
      constructor
      · intro gave
        cases gave
      · rintro ⟨_, gave, _⟩
        cases gave
  | ok value =>
      constructor
      · intro gave
        exact ⟨value, rfl, gave⟩
      · rintro ⟨_, same, gave⟩
        cases same
        exact gave

/-- Two steps fail when the first one does, or the second one with what the first one gave. -/
theorem bind_eq_error_iff {ε α β : Type} {step : Except ε α} {next : α → Except ε β} {failure : ε} :
    step >>= next = .error failure ↔
      step = .error failure ∨ ∃ value, step = .ok value ∧ next value = .error failure := by
  cases step with
  | error other =>
      show Except.error other = Except.error failure ↔ _
      simp
  | ok value =>
      show next value = .error failure ↔ _
      simp

/-! ### Rows -/

theorem Line.marks_iff (line : Line) (marker : String) :
    line.marks marker = true ↔ Begins marker line.text := by
  unfold Line.marks Text.beginsWith Begins
  exact List.isPrefixOf_iff_prefix

theorem Line.field_eq_ok_iff {line : Line} {index : Nat} {text : String} :
    line.field index = .ok text ↔ (Text.fields line.text)[index]? = some text := by
  unfold Line.field
  cases (Text.fields line.text)[index]? <;> simp

theorem Line.count_eq_ok_iff {line : Line} {index value : Nat} :
    line.count index = .ok value ↔ ∃ text, (Text.fields line.text)[index]? = some text ∧
      Numeral text value ∧ value < countBound := by
  unfold Line.count
  rw [bind_eq_ok_iff]
  refine exists_congr fun text => ?_
  rw [Line.field_eq_ok_iff, ← readNat?_eq_some_iff]
  cases Text.Decimal.readNat? countBound text <;> simp

/-- **A row of the instruction table** is read when it has its fields and both of its counts. -/
theorem Line.fetchRow_eq_ok_iff {line : Line} {s : Statistic} :
    line.fetchRow = .ok s ↔ FetchRow line.text s := by
  unfold Line.fetchRow
  simp only [bind_eq_ok_iff, Line.field_eq_ok_iff, Line.count_eq_ok_iff]
  constructor
  · rintro ⟨instruction, atInstruction, a, ⟨f₁, atFirst, first, _⟩, b, ⟨f₄, atSecond, second, _⟩, gave⟩
    split at gave
    · rename_i bound
      cases gave
      rcases fields : Text.fields line.text with _ | ⟨g₀, _ | ⟨g₁, _ | ⟨g₂, _ | ⟨g₃, _ | ⟨g₄, more⟩⟩⟩⟩⟩ <;>
        rw [fields] at atInstruction atFirst atSecond <;> simp at atInstruction atFirst atSecond
      subst atInstruction atFirst atSecond
      exact ⟨fields, first, second, bound⟩
    · cases gave
  · rintro ⟨fields, first, second, bound⟩
    rename_i instruction f₁ f₂ f₃ f₄ more a b
    have bounded : a + b < countBound := bound
    refine ⟨instruction, by rw [fields]; rfl, a, ⟨f₁, by rw [fields]; rfl, first, by omega⟩, b,
      ⟨f₄, by rw [fields]; rfl, second, by omega⟩, ?_⟩
    rw [if_pos bounded]

/-- The line of the cycle count is read when it has a second field. -/
theorem Line.cycleRow_eq_ok_iff {line : Line} {s : Statistic} :
    line.cycleRow = .ok s ↔ CycleRow line.text s := by
  unfold Line.cycleRow
  simp only [bind_eq_ok_iff, Line.field_eq_ok_iff]
  constructor
  · rintro ⟨label, atLabel, count, atCount, gave⟩
    cases gave
    rcases fields : Text.fields line.text with _ | ⟨g₀, _ | ⟨g₁, more⟩⟩ <;>
      rw [fields] at atLabel atCount <;> simp at atLabel atCount
    subst atLabel atCount
    exact ⟨fields⟩
  · rintro ⟨fields⟩
    rename_i label count more
    exact ⟨label, by rw [fields]; rfl, count, by rw [fields]; rfl, rfl⟩

/-! ### Sections -/

/-- **The header of the instruction table** is the first line that is one, and no option summary may
come before it. -/
theorem afterHeader_eq_ok_iff {lines rest : List Line} :
    afterHeader lines = .ok rest ↔ ∃ preamble header, lines = preamble ++ header :: rest ∧
      (∀ line ∈ preamble, Text.trim line.text ≠ instructionHeader ∧
        Text.trim line.text ≠ optionsHeader) ∧
      Text.trim header.text = instructionHeader := by
  constructor
  · intro read
    induction lines with
    | nil => cases read
    | cons line lines ih =>
        unfold afterHeader at read
        split at read
        · rename_i isHeader
          cases read
          exact ⟨[], line, rfl, by simp, isHeader⟩
        · rename_i noHeader
          split at read
          · cases read
          · rename_i noOptions
            obtain ⟨preamble, header, rfl, none, isHeader⟩ := ih read
            exact ⟨line :: preamble, header, rfl,
              List.forall_mem_cons.mpr ⟨⟨noHeader, noOptions⟩, none⟩, isHeader⟩
  · rintro ⟨preamble, header, rfl, none, isHeader⟩
    induction preamble with
    | nil => exact if_pos isHeader
    | cons line preamble ih =>
        obtain ⟨⟨noHeader, noOptions⟩, later⟩ := List.forall_mem_cons.mp none
        rw [List.cons_append, afterHeader, Line.trimmed, if_neg noHeader, if_neg noOptions]
        exact ih later

/-- **The instruction table** ends with the first line that begins as its totals do, and every line
before it must be a row. -/
theorem fetchRows_eq_ok_iff {lines rest : List Line} {fetches : List Statistic} :
    fetchRows lines = .ok (fetches, rest) ↔ ∃ rows totals, lines = rows ++ totals :: rest ∧
      (∀ line ∈ rows, ¬ Begins totalsMarker line.text) ∧ Begins totalsMarker totals.text ∧
      List.Forall₂ (fun line => FetchRow line.text) rows fetches := by
  constructor
  · intro read
    induction lines generalizing fetches with
    | nil => cases read
    | cons line lines ih =>
        unfold fetchRows at read
        split at read
        · rename_i isTotals
          cases read
          exact ⟨[], line, rfl, by simp, (line.marks_iff _).mp isTotals, .nil⟩
        · rename_i noTotals
          simp only [bind_eq_ok_iff] at read
          obtain ⟨fetch, row, ⟨more, after⟩, readMore, gave⟩ := read
          cases gave
          obtain ⟨rows, totals, rfl, none, isTotals, table⟩ := ih readMore
          exact ⟨line :: rows, totals, rfl,
            List.forall_mem_cons.mpr ⟨fun begins => noTotals ((line.marks_iff _).mpr begins), none⟩,
            isTotals, .cons (Line.fetchRow_eq_ok_iff.mp row) table⟩
  · rintro ⟨rows, totals, rfl, none, isTotals, table⟩
    induction table with
    | nil => exact if_pos ((totals.marks_iff _).mpr isTotals)
    | @cons line fetch rows fetches row _ ih =>
        obtain ⟨noTotals, later⟩ := List.forall_mem_cons.mp none
        rw [List.cons_append, fetchRows, if_neg fun marks => noTotals ((line.marks_iff _).mp marks),
          Line.fetchRow_eq_ok_iff.mpr row]
        show fetchRows _ >>= _ = _
        rw [ih later]
        rfl

/-- **A search** ends with the first line that begins with the marker. -/
theorem seek_eq_ok_iff {marker : String} {expected : Awaited} {lines rest : List Line}
    {found : Line} :
    seek marker expected lines = .ok (found, rest) ↔ ∃ gap, lines = gap ++ found :: rest ∧
      (∀ line ∈ gap, ¬ Begins marker line.text) ∧ Begins marker found.text := by
  constructor
  · intro sought
    induction lines with
    | nil => cases sought
    | cons line lines ih =>
        unfold seek at sought
        split at sought
        · rename_i marks
          cases sought
          exact ⟨[], rfl, by simp, (Line.marks_iff _ _).mp marks⟩
        · rename_i noMark
          obtain ⟨gap, rfl, none, begins⟩ := ih sought
          exact ⟨line :: gap, rfl,
            List.forall_mem_cons.mpr ⟨fun begins => noMark ((line.marks_iff _).mpr begins), none⟩,
            begins⟩
  · rintro ⟨gap, rfl, none, begins⟩
    induction gap with
    | nil => exact if_pos ((found.marks_iff _).mpr begins)
    | cons line gap ih =>
        obtain ⟨noMark, later⟩ := List.forall_mem_cons.mp none
        rw [List.cons_append, seek, if_neg fun marks => noMark ((line.marks_iff _).mp marks)]
        exact ih later

theorem afterProfilingHeader_eq_ok_iff {lines rest : List Line} :
    afterProfilingHeader lines = .ok rest ↔ ∃ t₁ t₂ t₃, lines = t₁ :: t₂ :: t₃ :: rest := by
  unfold afterProfilingHeader
  split
  · simp
  · rename_i tooFew
    constructor
    · intro read
      cases read
    · rintro ⟨t₁, t₂, t₃, rfl⟩
      exact absurd rfl (tooFew t₁ t₂ t₃ rest)

/-- A line opens a profile when it begins with an opening bracket. -/
theorem Line.functionName?_eq_some_iff {line : Line} {name : String} :
    line.functionName? = some name ↔ ∃ rest, (Text.trim line.text).toList = '<' :: rest ∧
      name = String.ofList (rest.takeWhile (· ≠ '>')) := by
  unfold Line.functionName? Line.trimmed
  split
  · rename_i rest opens
    rw [opens]
    constructor
    · intro same
      cases same
      exact ⟨rest, rfl, rfl⟩
    · rintro ⟨_, same, rfl⟩
      cases same
      rfl
  · rename_i notOpening
    constructor
    · intro same
      cases same
    · rintro ⟨rest, opens, _⟩
      exact absurd opens (notOpening rest)

theorem Line.functionName?_eq_none_iff {line : Line} :
    line.functionName? = none ↔ ¬ Begins "<" line.text := by
  constructor
  · rintro none ⟨rest, begins⟩
    have some := Line.functionName?_eq_some_iff.mpr ⟨rest, begins.symm, rfl⟩
    rw [none] at some
    cases some
  · intro noBracket
    cases named : line.functionName? with
    | none => rfl
    | some name =>
        obtain ⟨rest, opens, _⟩ := Line.functionName?_eq_some_iff.mp named
        exact absurd ⟨rest, opens.symm⟩ noBracket

/-- **The profiles** are read as long as a line opens one. -/
theorem callRows_eq_ok_iff {lines : List Line} {calls : List Statistic} :
    callRows lines = .ok calls ↔ ∃ profiles remainder,
      lines.map Line.text = profiles.flatMap Profile.lines ++ remainder ∧
      List.Forall₂ Profile.Denotes profiles calls ∧
      ∀ line ∈ remainder.head?, ¬ Begins "<" line := by
  constructor
  · intro read
    induction lines using callRows.induct generalizing calls with
    | case1 =>
        cases read
        exact ⟨[], [], rfl, .nil, by simp⟩
    | case2 opening rest named =>
        unfold callRows at read
        simp only [named] at read
        cases read
        refine ⟨[], (opening :: rest).map Line.text, rfl, .nil, ?_⟩
        simpa using Line.functionName?_eq_none_iff.mp named
    | case3 opening function named =>
        unfold callRows at read
        simp only [named] at read
        cases read
    | case4 opening function named figures =>
        unfold callRows at read
        simp only [named] at read
        cases read
    | case5 opening function named figures countLine after ih =>
        unfold callRows at read
        simp only [named, bind_eq_ok_iff, Line.field_eq_ok_iff] at read
        obtain ⟨count, atCount, more, readMore, gave⟩ := read
        cases gave
        obtain ⟨profiles, remainder, divided, denotes, ends⟩ := ih readMore
        obtain ⟨rest, opens, rfl⟩ := Line.functionName?_eq_some_iff.mp named
        rw [← List.head?_eq_getElem?] at atCount
        obtain ⟨others, fields⟩ := List.head?_eq_some_iff.mp atCount
        refine ⟨⟨opening.text, figures.text, countLine.text⟩ :: profiles, remainder, ?_, ?_, ends⟩
        · simp only [List.map_cons, List.flatMap_cons, Profile.lines, List.cons_append,
            List.nil_append, divided]
        · exact .cons (Profile.denotes_iff.mpr ⟨rest, count, others, opens, fields, rfl⟩) denotes
  · rintro ⟨profiles, remainder, divided, denotes, ends⟩
    induction denotes generalizing lines with
    | nil =>
        rw [List.flatMap_nil, List.nil_append] at divided
        subst divided
        cases lines with
        | nil => rfl
        | cons line rest =>
            have none := Line.functionName?_eq_none_iff.mpr (ends line.text rfl)
            unfold callRows
            simp only [none]
    | @cons p call profiles calls head _ ih =>
        obtain ⟨rest, count, others, opens, fields, rfl⟩ := Profile.denotes_iff.mp head
        simp only [List.flatMap_cons, Profile.lines, List.cons_append, List.nil_append] at divided
        obtain ⟨opening, _, rfl, isOpening, divided⟩ := List.map_eq_cons_iff.mp divided
        obtain ⟨figures, _, rfl, _, divided⟩ := List.map_eq_cons_iff.mp divided
        obtain ⟨countLine, after, rfl, isCount, divided⟩ := List.map_eq_cons_iff.mp divided
        have named := Line.functionName?_eq_some_iff.mpr ⟨rest, by rw [isOpening]; exact opens, rfl⟩
        have counted : countLine.field 0 = .ok count :=
          Line.field_eq_ok_iff.mpr (by rw [isCount, fields]; rfl)
        unfold callRows
        simp only [named, counted]
        show callRows after >>= _ = _
        rw [ih divided]
        rfl

/-! ### Whole reports -/

/-- **A report is read exactly when its lines follow the grammar**, and as what the grammar says. -/
theorem read_eq_ok_iff {lines : List Line} {s : Statistics} :
    read lines = .ok s ↔
      ∃ layout : Layout, layout.lines = lines.map Line.text ∧ layout.Denotes s.entries := by
  unfold read
  simp only [bind_eq_ok_iff]
  constructor
  · rintro ⟨table, atHeader, ⟨fetches, afterTable⟩, atRows, ⟨cycleLine, afterCycles⟩, atCycles, cycle,
      atCycle, ⟨profilingLine, afterProfiling⟩, atProfiling, functions, atTitles, calls, atCalls, gave⟩
    cases gave
    obtain ⟨preamble, header, rfl, none, isHeader⟩ := afterHeader_eq_ok_iff.mp atHeader
    obtain ⟨rows, totals, divided, noTotals, isTotals, rowsRead⟩ := fetchRows_eq_ok_iff.mp atRows
    obtain ⟨gap, rfl, noCycles, isCycles⟩ := seek_eq_ok_iff.mp atCycles
    obtain ⟨gap', rfl, noProfiling, isProfiling⟩ := seek_eq_ok_iff.mp atProfiling
    obtain ⟨t₁, t₂, t₃, rfl⟩ := afterProfilingHeader_eq_ok_iff.mp atTitles
    obtain ⟨profiles, remainder, sections, profilesRead, ends⟩ := callRows_eq_ok_iff.mp atCalls
    cases table with
    | nil => simp at divided
    | cons columns table =>
        rw [List.drop_one, List.tail_cons] at divided
        subst divided
        refine ⟨⟨preamble.map Line.text, header.text, columns.text, rows.map Line.text, totals.text,
          gap.map Line.text, cycleLine.text, gap'.map Line.text, profilingLine.text, t₁.text, t₂.text,
          t₃.text, profiles, remainder⟩, ?_, ?_⟩
        · simp only [Layout.lines, List.map_append, List.map_cons, sections]
        · exact {
            preamble := List.forall_mem_map.mpr none
            header := isHeader
            rows := List.forall_mem_map.mpr noTotals
            totals := isTotals
            beforeCycles := List.forall_mem_map.mpr noCycles
            cycles := isCycles
            beforeProfiling := List.forall_mem_map.mpr noProfiling
            profiling := isProfiling
            remainder := ends
            entries := ⟨fetches, cycle, calls, rfl, List.forall₂_map_left_iff.mpr rowsRead,
              Line.cycleRow_eq_ok_iff.mp atCycle, profilesRead⟩ }
  · rintro ⟨l, divided, denotes⟩
    obtain ⟨fetches, cycle, calls, entries, rowsRead, cycleRead, profilesRead⟩ := denotes.entries
    unfold Layout.lines at divided
    obtain ⟨preamble, _, rfl, isPreamble, divided⟩ := List.map_eq_append_iff.mp divided.symm
    obtain ⟨header, _, rfl, isHeader, divided⟩ := List.map_eq_cons_iff.mp divided
    obtain ⟨columns, _, rfl, _, divided⟩ := List.map_eq_cons_iff.mp divided
    obtain ⟨rows, _, rfl, isRows, divided⟩ := List.map_eq_append_iff.mp divided
    obtain ⟨totals, _, rfl, isTotals, divided⟩ := List.map_eq_cons_iff.mp divided
    obtain ⟨gap, _, rfl, isGap, divided⟩ := List.map_eq_append_iff.mp divided
    obtain ⟨cycleLine, _, rfl, isCycles, divided⟩ := List.map_eq_cons_iff.mp divided
    obtain ⟨gap', _, rfl, isGap', divided⟩ := List.map_eq_append_iff.mp divided
    obtain ⟨profilingLine, _, rfl, isProfiling, divided⟩ := List.map_eq_cons_iff.mp divided
    obtain ⟨t₁, _, rfl, _, divided⟩ := List.map_eq_cons_iff.mp divided
    obtain ⟨t₂, _, rfl, _, divided⟩ := List.map_eq_cons_iff.mp divided
    obtain ⟨t₃, functions, rfl, _, divided⟩ := List.map_eq_cons_iff.mp divided
    have none := denotes.preamble
    have noTotals := denotes.rows
    have noCycles := denotes.beforeCycles
    have noProfiling := denotes.beforeProfiling
    rw [← isPreamble, List.forall_mem_map] at none
    rw [← isRows, List.forall_mem_map] at noTotals
    rw [← isGap, List.forall_mem_map] at noCycles
    rw [← isGap', List.forall_mem_map] at noProfiling
    rw [← isRows, List.forall₂_map_left_iff] at rowsRead
    refine ⟨_, afterHeader_eq_ok_iff.mpr ⟨preamble, header, rfl, none, isHeader ▸ denotes.header⟩,
      (fetches, _), fetchRows_eq_ok_iff.mpr ⟨rows, totals, rfl, noTotals, isTotals ▸ denotes.totals,
        rowsRead⟩,
      (cycleLine, _), seek_eq_ok_iff.mpr ⟨gap, rfl, noCycles, isCycles ▸ denotes.cycles⟩,
      cycle, Line.cycleRow_eq_ok_iff.mpr (isCycles ▸ cycleRead),
      (profilingLine, _), seek_eq_ok_iff.mpr ⟨gap', rfl, noProfiling, isProfiling ▸ denotes.profiling⟩,
      functions, afterProfilingHeader_eq_ok_iff.mpr ⟨t₁, t₂, t₃, rfl⟩,
      calls, callRows_eq_ok_iff.mpr ⟨l.profiles, l.remainder, divided, profilesRead,
        denotes.remainder⟩, ?_⟩
    rw [← entries]

theorem map_text_numbered (first : Nat) (texts : List String) :
    (numbered first texts).map Line.text = texts := by
  induction texts generalizing first with
  | nil => rfl
  | cons text rest ih => rw [numbered, List.map_cons, ih]

/-- **Which texts are reports, and what they say.** A text gives statistics exactly when its lines are
divided as the grammar demands, and then those that the grammar assigns to them. The lines of a text
can be divided in one way at most. -/
theorem ofReport_eq_ok_iff (raw : String) :
    (∀ s : Statistics, Statistics.ofReport raw = .ok s ↔
      ∃ layout : Layout, layout.lines = Text.lines raw ∧ layout.Denotes s.entries) ∧
    ∀ (l l' : Layout) (entries entries' : List Statistic),
      l.lines = Text.lines raw → l.Denotes entries →
      l'.lines = Text.lines raw → l'.Denotes entries' → l = l' ∧ entries = entries' := by
  refine ⟨fun s => ?_, fun l l' entries entries' divided denotes divided' denotes' => ?_⟩
  · rw [Statistics.ofReport, read_eq_ok_iff, map_text_numbered]
  · exact denotes.unique (divided.trans divided'.symm) denotes'

end SinglePath.Report
