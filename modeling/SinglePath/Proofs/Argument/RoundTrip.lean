/-
**Execution arguments that are written and read again.**

An input may hold blanks, signs and digits, and an exit code may be as low as the least 32-bit number: as
long as an argument can be written at all, its text stands for it alone.

* `parse_text_eq_ok_iff` — an argument is read back from its text exactly when it is writable;
* `writable_of_parse` — every argument that was read is;
* `parseAll_map_text` — so a list of arguments that was read is read back from the texts in a summary;
* `parse_inverts_text` — writing and reading are inverse, and a label in a divergence names one argument.
-/

import SinglePath.Proofs.Argument.Grammar
import SinglePath.Proofs.Divergence

namespace SinglePath.ExecutionArgument

variable {text : String} {argument : ExecutionArgument}

theorem Writable.written_text (writable : argument.Writable) : Written argument.text argument := by
  refine ⟨writable, [], (Text.Decimal.ofInt argument.expected).toList, [], ?_, by simp, by simp,
    Text.Decimal.signedNumeral_ofInt argument.expected⟩
  rw [toList_text]
  simp

theorem writable_of_parse (read : parse text = .ok argument) : argument.Writable :=
  (parse_eq_ok_iff.mp read).1

/-- **An argument is read back from its text** exactly when it is writable. -/
theorem parse_text_eq_ok_iff : parse argument.text = .ok argument ↔ argument.Writable :=
  ⟨writable_of_parse, fun writable => parse_eq_ok_iff.mpr writable.written_text⟩

theorem Writable.eq_of_text_eq (writable : argument.Writable) {other : ExecutionArgument}
    (writableOther : other.Writable) (same : argument.text = other.text) : argument = other := by
  have read := parse_text_eq_ok_iff.mpr writable
  rw [same, parse_text_eq_ok_iff.mpr writableOther] at read
  exact (Except.ok.inj read).symm

section Lists

variable {texts : List String} {arguments : List ExecutionArgument}

theorem writable_of_parseAll (read : parseAll texts = .ok arguments) :
    ∀ argument ∈ arguments, argument.Writable :=
  Report.forall_mem_of_forall₂ (parseAll_eq_ok_iff.mp read).2 fun _ _ _ read => writable_of_parse read

/-- **Arguments that were read are read back** from their texts. -/
theorem parseAll_map_text (read : parseAll texts = .ok arguments) :
    parseAll (arguments.map ExecutionArgument.text) = .ok arguments := by
  obtain ⟨enough, each⟩ := parseAll_eq_ok_iff.mp read
  refine parseAll_eq_ok_iff.mpr ⟨?_, ?_⟩
  · rwa [List.length_map, ← each.length_eq]
  · rw [List.forall₂_map_left_iff, List.forall₂_same]
    exact fun argument member => parse_text_eq_ok_iff.mpr (writable_of_parseAll read argument member)

end Lists

/-- **Writing and reading arguments are inverse.** A writable argument is read back from its text. Every
argument that was read is writable, so to write and read it again changes nothing, for one argument as for
the arguments that a summary records. Arguments that were read have the same text only if they are the same,
so the labels of a divergence each name one of the arguments that were checked. -/
theorem parse_inverts_text :
    (∀ argument : ExecutionArgument, argument.input ≠ "" → '=' ∉ argument.input.toList →
      -2147483648 ≤ argument.expected → argument.expected ≤ 2147483647 →
      parse argument.text = .ok argument) ∧
    (∀ text argument, parse text = .ok argument → argument.Writable ∧
      parse argument.text = parse text ∧
      (parse argument.text).map ExecutionArgument.text = .ok argument.text) ∧
    (∀ texts arguments, parseAll texts = .ok arguments →
      (∀ program, parseAll (Summary.start program arguments).arguments = .ok arguments) ∧
      ∀ (σ : Type) (tools : Toolchain σ) program singlePathFlag base matrix state summary,
        (checkMatrix tools program arguments singlePathFlag base matrix state).verdict = .ok summary →
        parseAll summary.arguments = .ok arguments) ∧
    (∀ text text' argument other, parse text = .ok argument → parse text' = .ok other →
      argument.text = other.text → argument = other) ∧
    ∀ texts arguments, parseAll texts = .ok arguments →
      ∀ (σ : Type) (tools : Toolchain σ) program singlePath state found after,
        (checkExecutions tools program arguments singlePath).run state =
          .error (.divergence found) after →
        found.diff = Diff.unified found.referenceStatistics.text found.candidateStatistics.text
          found.reference.text found.candidate.text ∧
        parse found.reference.text = .ok found.reference ∧
        parse found.candidate.text = .ok found.candidate ∧
        ∀ argument ∈ arguments,
          (argument.text = found.reference.text → argument = found.reference) ∧
          (argument.text = found.candidate.text → argument = found.candidate) := by
  refine ⟨fun argument nonempty noSeparator least greatest => ?_, fun text argument read => ?_,
    fun texts arguments read => ⟨fun program => parseAll_map_text read, ?_⟩,
    fun text text' argument other read readOther => ?_, fun texts arguments read => ?_⟩
  · exact parse_text_eq_ok_iff.mpr ⟨nonempty, noSeparator, least, greatest⟩
  · have writable := writable_of_parse read
    have again := parse_text_eq_ok_iff.mpr writable
    refine ⟨writable, again.trans read.symm, ?_⟩
    rw [again]
    rfl
  · intro σ tools program singlePathFlag base matrix state summary passed
    rw [checkMatrix_passed (checkMatrix_ok_iff.mp ⟨summary, passed⟩)] at passed
    cases passed
    exact parseAll_map_text read
  · exact (writable_of_parse read).eq_of_text_eq (writable_of_parse readOther)
  · intro σ tools program singlePath state found after diverged
    have writable := writable_of_parseAll read
    obtain ⟨first, rest, candidate, s, t, -, -, rfl, member, rfl, -⟩ :=
      exists_reports_of_divergence diverged
    have isFirst := writable first List.mem_cons_self
    have isCandidate := writable candidate (List.mem_cons_of_mem _ member)
    refine ⟨Divergence.diff_between program first candidate s t, parse_text_eq_ok_iff.mpr isFirst,
      parse_text_eq_ok_iff.mpr isCandidate, fun argument listed => ⟨?_, ?_⟩⟩
    · exact (writable argument listed).eq_of_text_eq isFirst
    · exact (writable argument listed).eq_of_text_eq isCandidate

end SinglePath.ExecutionArgument
