/-
**Tools that forget what does not matter.**

An answer of a tool may depend on everything that happened before. A toolchain is history-free when it
depends on little of it: on the flags of the latest compile and, once a program is linked, on the input
of the latest link.

* `Memory`, `remembered` — what is left of the calls so far;
* `Toolchain.HistoryFree` — after histories that leave the same, the answers are the same;
* `Uniform` — an action that gives the same from all states of a kind, with the ways in which checks are
  put together;
* `uniform_execute`, `uniform_build`, `uniform_checkConfiguration` — with history-free tools, what an
  execution gives depends on the flags of the program only, and what a configuration gives depends on
  nothing that happened before.
-/

import SinglePath.Proofs.MatrixRun
import SinglePath.Proofs.Schedule.Steps

namespace SinglePath

variable {α β ε ε' σ : Type}

/-! ### What is remembered of a history -/

/-- What a tool may still know about earlier calls. -/
structure Memory where
  /-- The flags of the latest compile. -/
  flags : Option (List String)
  /-- The input of the latest link. -/
  input : Option String
  deriving DecidableEq, Repr

namespace Memory

/-- What is known after one more call. -/
def note (m : Memory) : Call → Memory
  | .compile _ flags _ => { m with flags := some flags }
  | .link _ input _ => { m with input := some input }
  | .merge .. | .simulate _ => m

/-- What the answer to a call may depend on besides the call itself. The call counts as the latest one
already; compilers and mergers do not know about links. -/
def seen (m : Memory) (call : Call) : Memory :=
  match call with
  | .compile .. | .merge .. => { m.note call with input := none }
  | .link .. | .simulate _ => m.note call

end Memory

/-- The flags of the latest compile and the input of the latest link. -/
def remembered (history : List Call) : Memory :=
  history.foldl Memory.note ⟨none, none⟩

theorem remembered_append (history : List Call) (call : Call) :
    remembered (history ++ [call]) = (remembered history).note call := by
  unfold remembered
  rw [List.foldl_append]
  rfl

namespace Toolchain

/-- The state that the tools are in after some calls. -/
def after (tools : Toolchain σ) (origin : σ) (history : List Call) : σ :=
  history.foldl (fun state call => (Turn.take tools.answer call state).after) origin

theorem after_append (tools : Toolchain σ) (origin : σ) (history : List Call) (call : Call) :
    tools.after origin (history ++ [call]) =
      (Turn.take tools.answer call (tools.after origin history)).after := by
  unfold after
  rw [List.foldl_append]
  rfl

/-- **Tools whose answers depend only on the call and on what it sees of the earlier ones.** -/
def HistoryFree (tools : Toolchain σ) (origin : σ) : Prop :=
  ∀ (history history' : List Call) (call : Call),
    (remembered history).seen call = (remembered history').seen call →
    (Turn.take tools.answer call (tools.after origin history)).result =
      (Turn.take tools.answer call (tools.after origin history')).result

/-- A state that the tools are in after calls of which something is known. -/
def Reached (tools : Toolchain σ) (origin : σ) (known : Memory → Prop) (state : σ) : Prop :=
  ∃ history, tools.after origin history = state ∧ known (remembered history)

theorem Reached.mono {tools : Toolchain σ} {origin state : σ} {known less : Memory → Prop}
    (reached : tools.Reached origin known state) (implies : ∀ m, known m → less m) :
    tools.Reached origin less state := by
  obtain ⟨history, leads, holds⟩ := reached
  exact ⟨history, leads, implies _ holds⟩

/-- A state that the tools can come to. -/
def Reachable (tools : Toolchain σ) (origin : σ) : σ → Prop :=
  tools.Reached origin fun _ => True

theorem reachable_after (tools : Toolchain σ) (origin : σ) (history : List Call) :
    tools.Reachable origin (tools.after origin history) :=
  ⟨history, rfl, trivial⟩

/-- Tools that were asked to compile under some flags, and not under others since. -/
def Compiled (tools : Toolchain σ) (origin : σ) (flags : List String) : σ → Prop :=
  tools.Reached origin fun m => m.flags = some flags

theorem Compiled.reachable {tools : Toolchain σ} {origin state : σ} {flags : List String}
    (compiled : tools.Compiled origin flags state) : tools.Reachable origin state :=
  compiled.mono fun _ _ => trivial

end Toolchain

/-! ### Actions that give the same from all states of a kind -/

/-- Two results that differ at most in the states, which are both of a kind. -/
inductive SameResult (post : σ → Prop) : EStateM.Result ε σ α → EStateM.Result ε σ α → Prop
  | ok (value : α) {after after' : σ} : post after → post after' →
      SameResult post (.ok value after) (.ok value after')
  | error (failure : ε) {after after' : σ} : post after → post after' →
      SameResult post (.error failure after) (.error failure after')

/-- An action that gives the same from all states that satisfy `pre`, and leaves states that satisfy
`post`. -/
def Uniform (pre : σ → Prop) (action : EStateM ε σ α) (post : σ → Prop) : Prop :=
  ∀ state state', pre state → pre state' → SameResult post (action.run state) (action.run state')

theorem uniform_pure {pre : σ → Prop} (value : α) :
    Uniform pre (pure value : EStateM ε σ α) pre :=
  fun _ _ holds holds' => .ok value holds holds'

theorem uniform_throw {pre : σ → Prop} (failure : ε) :
    Uniform pre (throw failure : EStateM ε σ α) pre :=
  fun _ _ holds holds' => .error failure holds holds'

namespace Uniform

variable {pre mid post : σ → Prop} {action : EStateM ε σ α}

theorem weaken (uniform : Uniform pre action mid) (implies : ∀ state, mid state → post state) :
    Uniform pre action post := by
  intro state state' holds holds'
  have same := uniform state state' holds holds'
  generalize action.run state = result at same ⊢
  generalize action.run state' = result' at same ⊢
  cases same with
  | ok value left left' => exact .ok value (implies _ left) (implies _ left')
  | error failure left left' => exact .error failure (implies _ left) (implies _ left')

theorem strengthen (uniform : Uniform mid action post) (implies : ∀ state, pre state → mid state) :
    Uniform pre action post :=
  fun _ _ holds holds' => uniform _ _ (implies _ holds) (implies _ holds')

theorem adaptExcept (uniform : Uniform pre action post) (wrap : ε → ε') :
    Uniform pre (EStateM.adaptExcept wrap action) post := by
  intro state state' holds holds'
  have same := uniform state state' holds holds'
  rw [EStateM.run_adaptExcept, EStateM.run_adaptExcept]
  generalize action.run state = result at same ⊢
  generalize action.run state' = result' at same ⊢
  cases same with
  | ok value left left' => exact .ok value left left'
  | error failure left left' => exact .error (wrap failure) left left'

/-- One uniform action after another is uniform. A failure of the first leaves the states in between, so
these have to be fit for the end. -/
theorem bind (uniform : Uniform pre action mid) (implies : ∀ state, mid state → post state)
    {next : α → EStateM ε σ β} (goesOn : ∀ value, Uniform mid (next value) post) :
    Uniform pre (action >>= next) post := by
  intro state state' holds holds'
  have same := uniform state state' holds holds'
  rw [EStateM.run_bind, EStateM.run_bind]
  generalize action.run state = result at same ⊢
  generalize action.run state' = result' at same ⊢
  cases same with
  | ok value left left' => exact goesOn value _ _ left left'
  | error failure left left' => exact .error failure (implies _ left) (implies _ left')

theorem andThen (uniform : Uniform pre action post) {next : α → EStateM ε σ β}
    (goesOn : ∀ value, Uniform post (next value) post) : Uniform pre (action >>= next) post :=
  uniform.bind (fun _ holds => holds) goesOn

/-- What gives the same when its value is wrapped up gives the same. -/
theorem of_map {wrap : α → β} (injective : ∀ {a b}, wrap a = wrap b → a = b)
    (uniform : Uniform pre (wrap <$> action) post) : Uniform pre action post := by
  intro state state' holds holds'
  have same := uniform state state' holds holds'
  rw [run_map, run_map] at same
  cases ran : action.run state <;> cases ran' : action.run state' <;> simp only [ran, ran'] at same
  case ok.ok value after value' after' =>
    generalize wrapped : wrap value = shown at same
    generalize wrapped' : wrap value' = shown' at same
    cases same with
    | ok _ left left' =>
        rw [injective (wrapped.trans wrapped'.symm)]
        exact .ok _ left left'
  case ok.error => cases same
  case error.ok => cases same
  case error.error =>
    cases same with
    | error _ left left' => exact .error _ left left'

/-! ### The turns of a uniform action -/

theorem take {action : α → EStateM ε σ β} {item : α} {state state' : σ}
    (uniform : Uniform pre (action item) post) (holds : pre state) (holds' : pre state') :
    (Turn.take action item state).result = (Turn.take action item state').result ∧
      post (Turn.take action item state).after := by
  have same := uniform state state' holds holds'
  unfold Turn.take
  generalize (action item).run state = result at same ⊢
  generalize (action item).run state' = result' at same ⊢
  cases same with
  | ok value left left' => exact ⟨rfl, left⟩
  | error failure left left' => exact ⟨rfl, left⟩

variable {inv : σ → Prop} {action : α → EStateM ε σ β}

/-- Every turn begins in a state of the kind. -/
theorem before_of_mem_turns (uniform : ∀ item, Uniform inv (action item) inv) {items : List α}
    {state : σ} (holds : inv state) {turn : Turn α ε σ β} (member : turn ∈ turns action items state) :
    inv turn.before := by
  induction items generalizing state with
  | nil => exact absurd member List.not_mem_nil
  | cons item rest ih =>
      rw [turns] at member
      rcases List.mem_cons.mp member with rfl | member
      · rwa [Turn.take_before]
      · exact ih ((uniform item).take holds holds).2 member

/-- **The turns of a list give what its items give on their own.** -/
theorem forall_mem_turns_iff (uniform : ∀ item, Uniform inv (action item) inv) {items : List α}
    {state origin : σ} (holds : inv state) (atOrigin : inv origin) {P : α → Except ε β → Prop} :
    (∀ turn ∈ turns action items state, P turn.item turn.result) ↔
      ∀ item ∈ items, P item (Turn.take action item origin).result := by
  have alone : ∀ turn ∈ turns action items state,
      turn.result = (Turn.take action turn.item origin).result := by
    intro turn member
    have begins := before_of_mem_turns uniform holds member
    rw [eq_take_of_mem_turns member, Turn.take_item]
    exact ((uniform turn.item).take begins atOrigin).1
  constructor
  · intro each item listed
    obtain ⟨turn, member, rfl⟩ := exists_turn_of_mem action state listed
    rw [← alone turn member]
    exact each turn member
  · intro each turn member
    rw [alone turn member]
    exact each turn.item (item_mem_of_mem_turns member)

end Uniform

/-! ### The actions of a check -/

section Checks

variable {tools : Toolchain σ} {origin : σ}

/-- History-free tools give the same answer wherever the call sees the same. -/
theorem uniform_answer (free : tools.HistoryFree origin) (call : Call) {known left : Memory → Prop}
    (sees : ∀ m m', known m → known m' → m.seen call = m'.seen call)
    (leaves : ∀ m, known m → left (m.note call)) :
    Uniform (tools.Reached origin known) (tools.answer call) (tools.Reached origin left) := by
  have reaches : ∀ history, known (remembered history) →
      tools.Reached origin left (Turn.take tools.answer call (tools.after origin history)).after := by
    intro history holds
    refine ⟨history ++ [call], tools.after_append origin history call, ?_⟩
    rw [remembered_append]
    exact leaves _ holds
  rintro _ _ ⟨history, rfl, holds⟩ ⟨history', rfl, holds'⟩
  have same := free history history' call (sees _ _ holds holds')
  have reached := reaches history holds
  have reached' := reaches history' holds'
  cases gave : (Turn.take tools.answer call (tools.after origin history)).result with
  | ok answer =>
      rw [Turn.run_of_take_ok gave, Turn.run_of_take_ok (same.symm.trans gave)]
      exact .ok answer reached reached'
  | error failure =>
      rw [Turn.run_of_take_error gave, Turn.run_of_take_error (same.symm.trans gave)]
      exact .error failure reached reached'

theorem uniform_require {pre post : σ → Prop} {tool : EStateM ToolError σ ToolRun}
    (uniform : Uniform pre tool post) {ε : Type} (missing : ToolError → ε) (failed : String → ε) :
    Uniform pre (require tool missing failed) post := by
  refine (uniform.adaptExcept _).andThen fun ended => ?_
  split
  · exact uniform_throw _
  · exact uniform_pure _

/-- What an execution gives depends on the flags of the program. -/
theorem uniform_execute (free : tools.HistoryFree origin) (program : String) (flags : List String)
    (argument : ExecutionArgument) :
    Uniform (tools.Compiled origin flags) (execute tools program argument)
      (tools.Compiled origin flags) := by
  -- the linker has to see the flags only, the simulator also the input it was linked with
  let linked : σ → Prop :=
    tools.Reached origin fun m => m.flags = some flags ∧ m.input = some argument.input
  have stays : ∀ state, linked state → tools.Compiled origin flags state :=
    fun _ reached => reached.mono fun _ known => known.1
  have links : Uniform (tools.Compiled origin flags)
      (tools.link program argument.input (executablePath program argument.input)) linked := by
    refine .of_map Answer.ended.inj (uniform_answer free (.link ..) ?_ ?_)
    · intro m m' known known'
      simp [Memory.seen, Memory.note, known, known']
    · intro m known
      exact ⟨known, rfl⟩
  have simulates : Uniform linked (tools.simulate (executablePath program argument.input)) linked := by
    refine .of_map Answer.simulated.inj (uniform_answer free (.simulate _) ?_ ?_)
    · rintro ⟨_, _⟩ ⟨_, _⟩ ⟨rfl, rfl⟩ ⟨rfl, rfl⟩
      rfl
    · intro m known
      exact known
  unfold execute
  refine (uniform_require links _ _).bind stays fun _ => ?_
  refine (simulates.adaptExcept _).bind stays fun run => ?_
  split
  · exact (uniform_pure _).weaken stays
  · exact (uniform_throw _).weaken stays

theorem uniform_checkRest {inv : σ → Prop} {program : String}
    (executes : ∀ argument, Uniform inv (execute tools program argument) inv) (singlePath : Bool)
    (first : ExecutionArgument) (reference : Statistics) (rest : List ExecutionArgument) :
    Uniform inv (checkRest tools program singlePath first reference rest) inv := by
  induction rest with
  | nil => exact uniform_pure 0
  | cons argument rest ih =>
      have goesOn := fun (f : Nat → Nat) => ih.andThen fun compared => uniform_pure (f compared)
      refine ((executes argument).adaptExcept _).andThen fun statistics => ?_
      dsimp only
      split
      · exact (uniform_throw _).andThen fun _ => goesOn _
      · exact goesOn _

theorem uniform_checkExecutions {inv : σ → Prop} {program : String}
    (executes : ∀ argument, Uniform inv (execute tools program argument) inv)
    (arguments : List ExecutionArgument) (singlePath : Bool) :
    Uniform inv (checkExecutions tools program arguments singlePath) inv := by
  cases arguments with
  | nil => exact uniform_throw _
  | cons first rest =>
      refine ((executes first).adaptExcept _).andThen fun reference => ?_
      exact (uniform_checkRest executes singlePath first reference rest).andThen
        fun compared => uniform_pure _

/-- Builds the program under a configuration. -/
def build (tools : Toolchain σ) (program : Program) (c : Configuration) :
    EStateM TestFailure σ Unit := do
  require (tools.compile program.source c.flags program.compiled) .tool (.notCompiled program.source)
  require (tools.merge program.startRoutine program.source program.compiled) .tool
    (.notMerged program.source program.startRoutine)
  require (tools.compile program.compiled c.flags program.compiled) .tool (.notCompiled program.source)

theorem checkConfiguration_eq_build (tools : Toolchain σ) (program : Program)
    (arguments : List ExecutionArgument) (c : Configuration) :
    checkConfiguration tools program arguments c =
      build tools program c >>= fun _ =>
        checkExecutions tools program.compiled arguments c.singlePath := by
  simp only [checkConfiguration, build, bind_assoc]

/-- **A build depends on nothing that happened before.** -/
theorem uniform_build (free : tools.HistoryFree origin) (program : Program) (c : Configuration) :
    Uniform (tools.Reachable origin) (build tools program c)
      (tools.Compiled origin c.flags) := by
  have compiles : ∀ input, Uniform (tools.Reachable origin)
      (tools.compile input c.flags program.compiled) (tools.Compiled origin c.flags) := by
    intro input
    refine .of_map Answer.ended.inj (uniform_answer free (.compile ..) ?_ ?_)
    · -- the call brings its own flags
      intro m m' _ _
      rfl
    · intro m _
      rfl
  have merges : Uniform (tools.Compiled origin c.flags)
      (tools.merge program.startRoutine program.source program.compiled)
      (tools.Compiled origin c.flags) := by
    refine .of_map Answer.ended.inj (uniform_answer free (.merge ..) ?_ ?_)
    · intro m m' known known'
      simp [Memory.seen, Memory.note, known, known']
    · intro m known
      exact known
  refine (uniform_require (compiles _) _ _).andThen fun _ => ?_
  refine (uniform_require merges _ _).andThen fun _ => ?_
  exact uniform_require ((compiles _).strengthen fun _ compiled => compiled.reachable) _ _

theorem uniform_checkConfiguration (free : tools.HistoryFree origin) (program : Program)
    (arguments : List ExecutionArgument) (c : Configuration) :
    Uniform (tools.Reachable origin) (checkConfiguration tools program arguments c)
      (tools.Reachable origin) := by
  rw [checkConfiguration_eq_build]
  have executions := uniform_checkExecutions (uniform_execute free program.compiled c.flags)
    arguments c.singlePath
  have forgets : ∀ state, tools.Compiled origin c.flags state → tools.Reachable origin state :=
    fun _ compiled => compiled.reachable
  exact (uniform_build free program c).bind forgets fun _ => executions.weaken forgets

end Checks

end SinglePath
