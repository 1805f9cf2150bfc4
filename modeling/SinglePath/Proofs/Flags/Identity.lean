/-
**A configuration is named by its flags.**

Base flags and alternatives are arbitrary texts, blank, padded or of several words. A walk splits them at
blanks before it joins them, so the text of a configuration can be split again:

* `fields_flagText` — words that are joined by spaces come back as fields;
* `isWord_of_mem_extensions` — at every level of a walk, the flags gathered so far are words;
* `visited_isPrefix` — what a walk visits are configurations, in order;
* `compiledBy_checkConfiguration` — a check compiles with the flags in the text of its configuration only;
* `text_identifies_configuration` — so the text of a configuration, in a failure, in a summary or when it
  is started, tells which flags the program was compiled with.
-/

import SinglePath.Proofs.Flags.Traversal
import SinglePath.Proofs.Text.Words

namespace SinglePath

variable {σ : Type}

/-! ### Flags are words -/

/-- **Words that are joined by spaces come back as fields.** -/
theorem fields_flagText {flags : List String} (words : ∀ flag ∈ flags, Text.IsWord flag) :
    Text.fields (flagText flags) = flags := by
  unfold flagText
  induction flags with
  | nil =>
      rw [String.intercalate_nil]
      rfl
  | cons flag flags ih =>
      obtain ⟨word, words⟩ := List.forall_mem_cons.mp words
      cases flags with
      | nil => rw [String.intercalate_singleton, Text.fields_of_isWord word]
      | cons next flags =>
          rw [String.intercalate_cons_cons, Text.fields_append_space word, ih words]

namespace FlagMatrix

theorem isWord_of_mem_baseFlags {base : List String} :
    ∀ flag ∈ baseFlags base, Text.IsWord flag := by
  intro flag member
  obtain ⟨text, -, isField⟩ := List.mem_flatMap.mp member
  exact Text.isWord_of_mem_fields isField

/-- The flags gathered so far are words, and stay so when an alternative is added. -/
theorem isWord_of_mem_extensions {flags leaf : List String} {groups : List (List String)}
    (words : ∀ flag ∈ flags, Text.IsWord flag) (member : leaf ∈ extensions flags groups) :
    ∀ flag ∈ leaf, Text.IsWord flag := by
  induction groups generalizing flags with
  | nil =>
      rw [extensions, List.mem_singleton] at member
      exact member ▸ words
  | cons group rest ih =>
      rw [extensions] at member
      obtain ⟨alternative, -, member⟩ := List.mem_flatMap.mp member
      refine ih (fun flag gathered => ?_) member
      rcases List.mem_append.mp gathered with before | added
      · exact words flag before
      · exact Text.isWord_of_mem_fields added

variable {m : FlagMatrix} {base : List String} {singlePathFlag : String} {c : Configuration}

theorem isWord_of_mem_configurations (listed : c ∈ m.configurations base singlePathFlag) :
    ∀ flag ∈ c.flags, Text.IsWord flag := by
  obtain ⟨flags, member, rfl⟩ := List.mem_map.mp listed
  exact isWord_of_mem_extensions isWord_of_mem_baseFlags member

theorem fields_text_of_mem_configurations (listed : c ∈ m.configurations base singlePathFlag) :
    Text.fields c.text = c.flags :=
  fields_flagText (isWord_of_mem_configurations listed)

theorem singlePath_of_mem_configurations (listed : c ∈ m.configurations base singlePathFlag) :
    c.singlePath = Text.occursIn singlePathFlag c.text := by
  obtain ⟨flags, -, rfl⟩ := List.mem_map.mp listed
  rfl

/-- The configurations that a walk visits, up to the first visit that fails. -/
def visited {ε : Type} (m : FlagMatrix) (base : List String) (singlePathFlag : String)
    (visit : Configuration → EStateM ε σ Unit) (state : σ) : List Configuration :=
  match (m.walk base singlePathFlag (logged visit)).run (state, []) with
  | .ok _ (_, seen) => seen
  | .error _ (_, seen) => seen

theorem visited_isPrefix {ε : Type} (m : FlagMatrix) (base : List String) (singlePathFlag : String)
    (visit : Configuration → EStateM ε σ Unit) (state : σ) :
    m.visited base singlePathFlag visit state <+: m.configurations base singlePathFlag := by
  unfold visited
  rw [walk_eq_forM]
  rcases all_ok_or_firstFailed (turns visit (m.configurations base singlePathFlag) state) with
    pass | ⟨k, turn, failure, found, failed, earlier⟩
  · have ran := (run_forM_passed (fun turn member => (pass turn member).choose_spec) []).2
    simp only [ran, List.nil_append, List.prefix_refl]
  · rw [(run_forM_stopped found failed
      (fun i small before atI => (earlier i small before atI).choose_spec) []).2]
    exact List.take_prefix _ _

end FlagMatrix

/-! ### The first call of a check -/

theorem run_require_noting (call : Call) (answer : EStateM ToolError σ ToolRun)
    (failed : String → TestFailure) (state : σ) (calls : List Call) :
    (require (Toolchain.noting call answer) .tool failed).run (state, calls) =
      withCalls ((require answer .tool failed).run state) (calls ++ [call]) := by
  rw [run_require, run_require, run_noting]
  cases answer.run state with
  | error error after => rfl
  | ok ended after =>
      obtain ⟨success, stderr⟩ := ended
      cases success <;> rfl

/-- A check begins with a compile of the source, whatever comes of it. -/
theorem head?_callsOf_checkConfiguration (tools : Toolchain σ) (program : Program)
    (arguments : List ExecutionArgument) (c : Configuration) (state : σ) :
    (callsOf (checkConfiguration tools.recorded program arguments c) state).head? =
      some (.compile program.source c.flags program.compiled) := by
  have noted := fun call (answer : EStateM ToolError σ ToolRun) failure =>
    records_of_adds _ (run_require_noting call answer failure)
  have merged := noted (.merge program.startRoutine program.source program.compiled)
    (tools.merge program.startRoutine program.source program.compiled)
    (.notMerged program.source program.startRoutine)
  have compiledAgain := noted (.compile program.compiled c.flags program.compiled)
    (tools.compile program.compiled c.flags program.compiled) (.notCompiled program.source)
  have rest := merged.bind fun _ => compiledAgain.bind fun _ =>
    records_checkExecutions tools program.compiled arguments c.singlePath
  have compiled := run_require_noting (.compile program.source c.flags program.compiled)
    (tools.compile program.source c.flags program.compiled) (.notCompiled program.source)
  have calls := callsOf_eq ((records_of_adds _ compiled).run_bind (fun _ => rest) state)
  rw [callsOf_eq (compiled state)] at calls
  exact congrArg List.head? calls

/-! ### The texts that a run shows -/

section Run

variable {tools : Toolchain σ} {program : Program} {arguments : List ExecutionArgument}
  {singlePathFlag : String} {base : List String} {matrix : FlagMatrix} {state : σ}

theorem started_isPrefix :
    (checkMatrix tools program arguments singlePathFlag base matrix state).started <+:
      matrix.configurations base singlePathFlag := by
  rcases all_ok_or_firstFailed (turns (checkConfiguration tools program arguments)
    (matrix.configurations base singlePathFlag) state) with
    pass | ⟨k, check, failure, found, gave, earlier⟩
  · simp only [checkMatrix_passed pass, List.prefix_refl]
  · simp only [checkMatrix_stopped found gave earlier, List.take_prefix]

/-- The configurations that were started are those of the checks that were made. -/
theorem map_item_take_started :
    let checks := turns (checkConfiguration tools program arguments)
      (matrix.configurations base singlePathFlag) state
    let run := checkMatrix tools program arguments singlePathFlag base matrix state
    (checks.take run.started.length).map Turn.item = run.started := by
  intro checks run
  rw [List.map_take, map_item_turns]
  exact (List.prefix_iff_eq_take.mp started_isPrefix).symm

/-- The configuration that a failure names is the last one that was started. -/
theorem getLast?_started_of_error {failure : MatrixFailure}
    (failed : (checkMatrix tools program arguments singlePathFlag base matrix state).verdict =
      .error failure) :
    ((checkMatrix tools program arguments singlePathFlag base matrix state).started.map
      Configuration.text).getLast? = some failure.configuration := by
  obtain ⟨k, check, cause, found, gave, earlier⟩ := checkMatrix_error_iff.mp ⟨failure, failed⟩
  rw [checkMatrix_stopped found gave earlier] at failed ⊢
  cases failed
  rw [List.take_add_one, item_of_getElem? found, List.map_append]
  simp

theorem map_flags_of_ok {summary : Summary}
    (passed : (checkMatrix tools program arguments singlePathFlag base matrix state).verdict =
      .ok summary) :
    summary.configurations.map ConfigurationSummary.flags =
      (checkMatrix tools program arguments singlePathFlag base matrix state).started.map
        Configuration.text := by
  have pass := checkMatrix_ok_iff.mp ⟨summary, passed⟩
  rw [checkMatrix_passed pass] at passed ⊢
  cases passed
  have texts := map_summaries ConfigurationSummary.flags Configuration.text (fun _ _ => rfl) pass
  rwa [map_item_turns] at texts

end Run

/-- The calls of a check that compiles with the flags that a text is made of. -/
structure CompiledBy (program : Program) (text : String) (calls : List Call) : Prop where
  first : calls.head? = some (.compile program.source (Text.fields text) program.compiled)
  only : ∀ call ∈ calls, call.CompilesWith (Text.fields text)

theorem compiledBy_checkConfiguration (tools : Toolchain σ) (program : Program)
    (arguments : List ExecutionArgument) {c : Configuration} (named : Text.fields c.text = c.flags)
    (state : σ) :
    CompiledBy program c.text (callsOf (checkConfiguration tools.recorded program arguments c) state) := by
  constructor
  · rw [named]
    exact head?_callsOf_checkConfiguration tools program arguments c state
  · rw [named]
    exact (callsOnly_checkConfiguration tools program arguments c).ofKind state

/-- **The calls of a run, configuration by configuration.** -/
theorem exists_calls_of_started (tools : Toolchain σ) (program : Program)
    (arguments : List ExecutionArgument) (singlePathFlag : String) (base : List String)
    (matrix : FlagMatrix) (state : σ) :
    let run := checkMatrix tools program arguments singlePathFlag base matrix state
    let logged := checkMatrix tools.recorded program arguments singlePathFlag base matrix (state, [])
    ∃ parts : List (List Call), logged.tools.2 = parts.flatten ∧
      List.Forall₂ (CompiledBy program) (run.started.map Configuration.text) parts := by
  intro run logged
  let checks := (turns (checkConfiguration tools program arguments)
    (matrix.configurations base singlePathFlag) state).take run.started.length
  have isStarted : checks.map Turn.item = run.started := map_item_take_started
  have recorded : logged = _ :=
    checkMatrix_recorded tools program arguments singlePathFlag base matrix state []
  refine ⟨checks.map fun check =>
    callsOf (checkConfiguration tools.recorded program arguments check.item) check.before, ?_, ?_⟩
  · rw [recorded, ← List.flatMap_def]
    rfl
  · rw [← isStarted, List.map_map, List.forall₂_map_left_iff, List.forall₂_map_right_iff,
      List.forall₂_same]
    intro check made
    have listed := item_mem_of_mem_turns (List.mem_of_mem_take made)
    exact compiledBy_checkConfiguration tools program arguments
      (FlagMatrix.fields_text_of_mem_configurations listed) check.before

/-- **The text of a configuration identifies it.** The flags of a configuration that a walk visits are words,
and its text, split at blanks, gives them back. So configurations with the same text have the same flags,
and with the same single-path flag both are single-path or neither is. The texts of the configurations that
a run starts tell, one by one, with which flags the program was compiled. A failure shows the last of these
texts, and a summary shows them all. -/
theorem text_identifies_configuration :
    (∀ (ε σ : Type) (m : FlagMatrix) base singlePathFlag (visit : Configuration → EStateM ε σ Unit) state,
      ∀ c ∈ m.visited base singlePathFlag visit state,
        (∀ flag ∈ c.flags, Text.IsWord flag) ∧ Text.fields c.text = c.flags) ∧
    (∀ (m m' : FlagMatrix) base base' singlePathFlag singlePathFlag',
      ∀ c ∈ m.configurations base singlePathFlag,
      ∀ c' ∈ m'.configurations base' singlePathFlag', c.text = c'.text →
        c.flags = c'.flags ∧ (singlePathFlag = singlePathFlag' → c.singlePath = c'.singlePath)) ∧
    ∀ (σ : Type) (tools : Toolchain σ) program arguments singlePathFlag base matrix state,
      let run := checkMatrix tools program arguments singlePathFlag base matrix state
      let calls :=
        (checkMatrix tools.recorded program arguments singlePathFlag base matrix (state, [])).tools.2
      let texts := run.started.map Configuration.text
      (∃ parts : List (List Call), calls = parts.flatten ∧
        List.Forall₂ (CompiledBy program) texts parts) ∧
      (∀ failure, run.verdict = .error failure → texts.getLast? = some failure.configuration) ∧
      (∀ summary, run.verdict = .ok summary →
        summary.configurations.map ConfigurationSummary.flags = texts) := by
  refine ⟨?_, ?_, ?_⟩
  · intro ε σ m base singlePathFlag visit state c seen
    have listed := (m.visited_isPrefix base singlePathFlag visit state).subset seen
    exact ⟨FlagMatrix.isWord_of_mem_configurations listed,
      FlagMatrix.fields_text_of_mem_configurations listed⟩
  · intro m m' base base' singlePathFlag singlePathFlag' c listed c' listed' same
    constructor
    · rw [← FlagMatrix.fields_text_of_mem_configurations listed, same,
        FlagMatrix.fields_text_of_mem_configurations listed']
    · rintro rfl
      rw [FlagMatrix.singlePath_of_mem_configurations listed, same,
        FlagMatrix.singlePath_of_mem_configurations listed']
  · intro σ tools program arguments singlePathFlag base matrix state run calls texts
    exact ⟨exists_calls_of_started tools program arguments singlePathFlag base matrix state,
      fun failure failed => getLast?_started_of_error failed, fun summary passed => map_flags_of_ok passed⟩

end SinglePath
