/-
**Which configurations are single-path.**

The single-path flag is searched in the flags of a configuration after they were split at blanks and joined
by spaces. Base flags and alternatives are arbitrary texts, so an occurrence could be made or lost on the
way. Neither happens when the single-path flag holds no space:

* `occursIn_flagText_iff` — an occurrence in joined flags lies within one flag;
* `exists_digits_of_configurations` — the flags of a configuration are the tokens of the base flags and of the
  alternatives on its path;
* `checkExecutions_false` — code that is not single-path is executed, and nothing is compared;
* `singlePath_decided_by_tokens` — so a configuration is single-path exactly when a token of a base flag
  or of an alternative on its path contains the single-path flag.
-/

import SinglePath.Proofs.Divergence
import SinglePath.Proofs.Flags.Identity
import SinglePath.Proofs.Schedule.Coverage
import SinglePath.Proofs.Text.Occurrence

namespace SinglePath

variable {σ : Type}

/-! ### The flag in joined flags -/

section Flag

variable {singlePathFlag : String} (nonempty : singlePathFlag ≠ "")
  (noSpace : ' ' ∉ singlePathFlag.toList)

include nonempty noSpace

/-- **An occurrence in joined flags** lies within one flag. -/
theorem occursIn_flagText_iff (flags : List String) :
    Text.occursIn singlePathFlag (flagText flags) = true ↔
      ∃ flag ∈ flags, singlePathFlag.toList <:+: flag.toList := by
  have letters : singlePathFlag.toList ≠ [] := mt String.toList_eq_nil_iff.mp nonempty
  have joined : (flagText flags).toList = [' '].intercalate (flags.map String.toList) :=
    String.toList_intercalate
  rw [Text.occursIn_iff, joined, Text.Chars.infix_intercalate_iff letters noSpace]
  simp only [List.mem_map, exists_exists_and_eq_and]

theorem singlePath_ofFlags_iff (texts : List String) :
    (Configuration.ofFlags singlePathFlag (texts.flatMap Text.fields)).singlePath = true ↔
      ∃ text ∈ texts, Text.HasToken singlePathFlag text := by
  have flagwise := occursIn_flagText_iff nonempty noSpace (texts.flatMap Text.fields)
  refine flagwise.trans ⟨?_, ?_⟩
  · rintro ⟨token, member, occurs⟩
    obtain ⟨text, given, isToken⟩ := List.mem_flatMap.mp member
    exact ⟨text, given, token, isToken, occurs⟩
  · rintro ⟨text, given, token, isToken, occurs⟩
    exact ⟨token, List.mem_flatMap.mpr ⟨text, given, isToken⟩, occurs⟩

end Flag

namespace FlagMatrix

theorem mem_group_of_mem_choice {groups : List (List String)} {digits : List Nat} {text : String}
    (below : List.Forall₂ (· < ·) digits (groups.map List.length)) (chosen : text ∈ choice groups digits) :
    ∃ group ∈ groups, text ∈ group := by
  induction groups generalizing digits with
  | nil =>
      rw [choice, List.zipWith_nil_left] at chosen
      cases chosen
  | cons group rest ih =>
      obtain ⟨digit, others, small, later, rfl⟩ := List.forall₂_cons_right_iff.mp below
      rw [choice, List.zipWith_cons_cons] at chosen
      rcases List.mem_cons.mp chosen with rfl | chosen
      · refine ⟨group, List.mem_cons_self, ?_⟩
        rw [List.getD_eq_getElem?_getD, List.getElem?_eq_getElem small, Option.getD_some]
        exact List.getElem_mem small
      · obtain ⟨other, known, member⟩ := ih later chosen
        exact ⟨other, List.mem_cons_of_mem _ known, member⟩

variable {m : FlagMatrix} {base : List String} {singlePathFlag : String} {c : Configuration}

/-- **The flags of a configuration** are the tokens of the base flags and of the alternatives on its path. -/
theorem exists_digits_of_configurations {k : Nat}
    (listed : (m.configurations base singlePathFlag)[k]? = some c) :
    ∃ digits, List.Forall₂ (· < ·) digits (m.groups.map List.length) ∧
      number (m.groups.map List.length) digits = k ∧
      c = .ofFlags singlePathFlag ((base ++ choice m.groups digits).flatMap Text.fields) := by
  have inside : k < m.size := by
    rw [← m.length_configurations base singlePathFlag]
    exact (List.getElem?_eq_some_iff.mp listed).1
  obtain ⟨digits, below, value, found⟩ := numbered_extensions (baseFlags base) inside
  rw [configurations, List.getElem?_map, found, Option.map_some] at listed
  refine ⟨digits, below, value, ?_⟩
  rw [List.flatMap_append]
  exact (Option.some.inj listed).symm

end FlagMatrix

/-! ### Runs that compare nothing -/

/-- Executes a program for every argument and compares nothing. -/
def executeAll (tools : Toolchain σ) (program : String) :
    List ExecutionArgument → EStateM TestFailure σ Outcome
  | [] => throw .noArguments
  | first :: rest => do
    let reference ← EStateM.adaptExcept .execution (execute tools program first)
    rest.forM fun argument => do
      let _ ← EStateM.adaptExcept .execution (execute tools program argument)
    return ⟨reference, (first :: rest).length, 0⟩

theorem checkRest_false (tools : Toolchain σ) (program : String) (first : ExecutionArgument)
    (reference : Statistics) (rest : List ExecutionArgument) :
    checkRest tools program false first reference rest = do
      rest.forM fun argument => do
        let _ ← EStateM.adaptExcept .execution (execute tools program argument)
      return 0 := by
  induction rest with
  | nil => rfl
  | cons argument rest ih =>
      simp only [List.forM_eq_forM] at ih
      simp [checkRest, ih]

/-- **Code that is not single-path** is executed, and nothing is compared. -/
theorem checkExecutions_false (tools : Toolchain σ) (program : String)
    (arguments : List ExecutionArgument) :
    checkExecutions tools program arguments false = executeAll tools program arguments := by
  cases arguments with
  | nil => rfl
  | cons first rest => simp [checkExecutions, executeAll, checkRest_false]

/-- A run that compares no statistics: each check only executes, no failure is a divergence, and the summary
counts no comparison. -/
structure MatrixRun.Uncompared (tools : Toolchain σ) (program : Program)
    (arguments : List ExecutionArgument) (run : MatrixRun σ) : Prop where
  executes : ∀ c ∈ run.started, checkExecutions tools program.compiled arguments c.singlePath =
    executeAll tools program.compiled arguments
  noDivergence : ∀ failure, run.verdict = .error failure →
    ∀ found, failure.failure ≠ .divergence found
  noneCounted : ∀ summary, run.verdict = .ok summary →
    ∀ c ∈ summary.configurations, c.singlePath = false ∧ c.compared = 0

/-- **A run without single-path configurations** compares nothing. -/
theorem uncompared_of_singlePath_false {matrix : FlagMatrix} {base : List String} {singlePathFlag : String}
    (none : ∀ c ∈ matrix.configurations base singlePathFlag, c.singlePath = false) (tools : Toolchain σ)
    (program : Program) (arguments : List ExecutionArgument) (state : σ) :
    (checkMatrix tools program arguments singlePathFlag base matrix state).Uncompared tools program
      arguments where
  executes c started := by
    rw [none c (started_isPrefix.subset started), checkExecutions_false]
  noDivergence failure failed found same := by
    obtain ⟨c, listed, -, before, after, ran⟩ := exists_check_of_error failed
    rw [same] at ran
    obtain ⟨built, diverged⟩ := divergence_of_checkConfiguration ran
    rw [none c listed] at diverged
    cases arguments with
    | nil => cases diverged
    | cons first rest => exact checkExecutions_ne_divergence found after diverged
  noneCounted summary passed row listed := by
    obtain ⟨i, atI⟩ := List.getElem?_of_mem listed
    obtain ⟨c, outcome, isListed, rfl, -, compared⟩ := (exists_outcome_of_summary passed).2 i row atI
    have notSinglePath := none c (List.mem_of_getElem? isListed)
    rw [notSinglePath] at compared
    exact ⟨notSinglePath, compared⟩

/-- **Single tokens decide which configurations are single-path.** For a single-path flag without spaces, a
configuration that a walk visits is single-path exactly when a token of a base flag or of an alternative on
its path contains this flag; if the flag is a word, exactly when one of these texts does. So one base flag
with such a token makes all configurations single-path. Where no base flag and no alternative has one, none
is, and a run compares nothing. -/
theorem singlePath_decided_by_tokens (m : FlagMatrix) (base : List String) {singlePathFlag : String}
    (nonempty : singlePathFlag ≠ "") (noSpace : ' ' ∉ singlePathFlag.toList) :
    (∀ (ε σ : Type) (visit : Configuration → EStateM ε σ Unit) (state : σ) (k : Nat) (c : Configuration),
      (m.visited base singlePathFlag visit state)[k]? = some c →
      ∃ digits, List.Forall₂ (· < ·) digits (m.groups.map List.length) ∧
        FlagMatrix.number (m.groups.map List.length) digits = k ∧
        let texts := base ++ FlagMatrix.choice m.groups digits
        c.flags = texts.flatMap Text.fields ∧
        (c.singlePath = true ↔ ∃ text ∈ texts, Text.HasToken singlePathFlag text) ∧
        (Text.IsWord singlePathFlag →
          (c.singlePath = true ↔ ∃ text ∈ texts, singlePathFlag.toList <:+: text.toList))) ∧
    ((∃ text ∈ base, Text.HasToken singlePathFlag text) →
      ∀ c ∈ m.configurations base singlePathFlag, c.singlePath = true) ∧
    ((∀ text ∈ base, ¬ Text.HasToken singlePathFlag text) →
      (∀ group ∈ m.groups, ∀ text ∈ group, ¬ Text.HasToken singlePathFlag text) →
      (∀ c ∈ m.configurations base singlePathFlag, c.singlePath = false) ∧
      ∀ (σ : Type) (tools : Toolchain σ) program arguments state,
        (checkMatrix tools program arguments singlePathFlag base m state).Uncompared tools program
          arguments) := by
  refine ⟨?_, ?_, ?_⟩
  · intro ε σ visit state k c seen
    obtain ⟨inside, rfl⟩ := List.getElem?_eq_some_iff.mp seen
    have listed := List.prefix_iff_getElem?.mp (m.visited_isPrefix base singlePathFlag visit state) k inside
    obtain ⟨digits, below, value, isVisited⟩ := FlagMatrix.exists_digits_of_configurations listed
    rw [isVisited]
    have tokenwise := singlePath_ofFlags_iff nonempty noSpace (base ++ FlagMatrix.choice m.groups digits)
    refine ⟨digits, below, value, rfl, tokenwise, fun word => tokenwise.trans ?_⟩
    simp only [word.hasToken_iff]
  · rintro ⟨text, given, token⟩ c listed
    obtain ⟨k, atK⟩ := List.getElem?_of_mem listed
    obtain ⟨digits, -, -, rfl⟩ := FlagMatrix.exists_digits_of_configurations atK
    rw [singlePath_ofFlags_iff nonempty noSpace]
    exact ⟨text, List.mem_append_left _ given, token⟩
  · intro noBase noAlternative
    have none : ∀ c ∈ m.configurations base singlePathFlag, c.singlePath = false := by
      intro c listed
      obtain ⟨k, atK⟩ := List.getElem?_of_mem listed
      obtain ⟨digits, below, -, rfl⟩ := FlagMatrix.exists_digits_of_configurations atK
      rw [Bool.eq_false_iff, ne_eq, singlePath_ofFlags_iff nonempty noSpace]
      rintro ⟨text, given, token⟩
      rcases List.mem_append.mp given with inBase | chosen
      · exact noBase text inBase token
      · obtain ⟨group, known, member⟩ := FlagMatrix.mem_group_of_mem_choice below chosen
        exact noAlternative group known text member token
    exact ⟨none, fun σ tools program arguments state =>
      uncompared_of_singlePath_false none tools program arguments state⟩

/-- The halves of the single-path flag, in two neighbouring base flags, make no configuration single-path.
A padded alternative with the whole flag does. -/
theorem singlePath_decided_by_tokens_halves :
    "-sp=" ≠ "" ∧ ' ' ∉ "-sp=".toList ∧
    (FlagMatrix.visited ⟨[["", "\t-sp=main -O1"]]⟩ ["-sp", "=main"] "-sp="
      (fun _ => (pure () : EStateM Unit Unit Unit)) ())[1]? =
        some ⟨["-sp", "=main", "-sp=main", "-O1"], true⟩ ∧
    (∃ digits, FlagMatrix.number [2] digits = 1 ∧
      ∃ text ∈ ["-sp", "=main"] ++ FlagMatrix.choice [["", "\t-sp=main -O1"]] digits,
        Text.HasToken "-sp=" text) ∧
    (∀ text ∈ ["-sp", "=main"], ¬ Text.HasToken "-sp=" text) ∧
    (∀ group ∈ [["", "-O1"]], ∀ text ∈ group, ¬ Text.HasToken "-sp=" text) ∧
    ∀ c ∈ FlagMatrix.configurations ⟨[["", "-O1"]]⟩ ["-sp", "=main"] "-sp=", c.singlePath = false := by
  have nonempty : "-sp=" ≠ "" := by decide
  have noSpace : ' ' ∉ "-sp=".toList := by decide
  have seen : (FlagMatrix.visited ⟨[["", "\t-sp=main -O1"]]⟩ ["-sp", "=main"] "-sp="
      (fun _ => (pure () : EStateM Unit Unit Unit)) ())[1]? =
        some ⟨["-sp", "=main", "-sp=main", "-O1"], true⟩ := by rfl
  have noBase : ∀ text ∈ ["-sp", "=main"], ¬ Text.HasToken "-sp=" text := by decide
  have noAlternative : ∀ group ∈ [["", "-O1"]], ∀ text ∈ group, ¬ Text.HasToken "-sp=" text := by decide
  obtain ⟨digits, -, value, -, tokenwise, -⟩ :=
    (singlePath_decided_by_tokens _ _ nonempty noSpace).1 _ _ _ _ 1 _ seen
  exact ⟨nonempty, noSpace, seen, ⟨digits, value, tokenwise.mp rfl⟩, noBase, noAlternative,
    ((singlePath_decided_by_tokens ⟨[["", "-O1"]]⟩ _ nonempty noSpace).2.2 noBase noAlternative).1⟩

end SinglePath
