/-
**Which files the tools are.**

The four tools are looked for in their roles: the compiler and the merger in one directory, the linker and the
simulator in the entries of the search path. A name that says where a file is stands for itself in any role.

* `isPathLike_iff` — such a name starts at the root, or two of its pieces are components;
* `Resolves` — a name resolves to itself, or to the file of this name in the first place that holds one;
* `resolve_eq_ok_iff`, `resolve_eq_error_iff` — the look-up of a role finds what the name resolves to, and fails
  when there is nothing;
* `map_discover` — a discovery is the four look-ups, one after another;
* `resolveOn_insert` — a place that is inserted makes no difference if it does not hold the tool, or stands
  behind one that does;
* `discover_resolves` — so a discovery is sound and complete, blames the first tool that is missing, and
  is not affected by what its tools do not depend on.
-/

import SinglePath.Proofs.Inputs
import SinglePath.Proofs.Text.Lines
import SinglePath.Toolchain.Discovery

namespace SinglePath

/-! ### Names that say where a file is -/

namespace Files.Path

/-- The piece of a path at a position is a component: it is not empty, and a dot only at the start. -/
def ComponentAt (path : String) (i : Nat) : Prop :=
  ∃ piece, (pieces path)[i]? = some piece ∧ piece ≠ "" ∧ (piece = "." → i = 0)

/-- A path that starts at the root, or has two components. -/
def SaysWhere (path : String) : Prop :=
  isAbsolute path = true ∨ ∃ i j, i < j ∧ ComponentAt path i ∧ ComponentAt path j

/-- Two marks are set exactly when the set ones are more than one. -/
theorem one_lt_countP_iff (marks : List Bool) :
    1 < marks.countP id ↔ ∃ i j : Nat, i < j ∧ marks[i]? = some true ∧ marks[j]? = some true := by
  induction marks with
  | nil => simp
  | cons mark marks ih =>
      have later : 0 < marks.countP id ↔ ∃ j : Nat, marks[j]? = some true := by
        rw [List.countP_pos_iff]
        constructor
        · rintro ⟨_, member, rfl⟩
          exact List.getElem?_of_mem member
        · rintro ⟨j, found⟩
          exact ⟨true, List.mem_of_getElem? found, rfl⟩
      cases mark with
      | true =>
          rw [List.countP_cons_of_pos rfl, Nat.lt_add_left_iff_pos, later]
          constructor
          · rintro ⟨j, found⟩
            exact ⟨0, j + 1, Nat.succ_pos j, rfl, found⟩
          · rintro ⟨i, _ | j, less, -, found⟩
            · cases less
            · exact ⟨j, found⟩
      | false =>
          rw [List.countP_cons_of_neg (by simp), ih]
          constructor
          · rintro ⟨i, j, less, first, second⟩
            exact ⟨i + 1, j + 1, Nat.succ_lt_succ less, first, second⟩
          · rintro ⟨_ | i, _ | j, less, first, second⟩
            · cases less
            · cases first
            · cases less
            · exact ⟨i, j, Nat.lt_of_succ_lt_succ less, first, second⟩

/-- Which pieces of a path are components. -/
def marks : List String → List Bool
  | [] => []
  | first :: rest => (first ≠ "" : Bool) :: rest.map isComponent

theorem getElem?_marks {path : String} {i : Nat} :
    (marks (pieces path))[i]? = some true ↔ ComponentAt path i := by
  unfold ComponentAt
  cases pieces path with
  | nil => simp [marks]
  | cons first rest =>
      cases i with
      | zero => simp [marks]
      | succ i =>
          rw [marks, List.getElem?_cons_succ, List.getElem?_cons_succ, List.getElem?_map,
            Option.map_eq_some_iff]
          simp [isComponent]

/-- A path whose first piece is empty, with another one behind it, starts at the root. -/
theorem isAbsolute_of_pieces {path second : String} {rest : List String}
    (divided : pieces path = "" :: second :: rest) : isAbsolute path = true := by
  unfold pieces Text.pieces at divided
  unfold isAbsolute
  cases letters : path.toList with
  | nil =>
      rw [letters] at divided
      cases divided
  | cons c cs =>
      by_cases slash : c = '/'
      · rw [slash]
        rfl
      · cases behind : Text.Chars.pieces '/' cs with
        | nil => exact absurd behind (Text.Chars.pieces_ne_nil _ _)
        | cons piece others =>
            rw [letters, Text.Chars.pieces_cons, behind, Text.Chars.piecesStep_of_ne slash] at divided
            have empty := congrArg String.toList (List.cons.inj divided).1
            rw [String.toList_ofList] at empty
            cases empty

theorem componentCount_of_relative {path : String} (relative : isAbsolute path = false) :
    componentCount path = (marks (pieces path)).countP id := by
  have behind : ∀ rest : List String, (rest.map isComponent).countP id = rest.countP isComponent :=
    fun rest => List.countP_map
  unfold componentCount Path.split
  split
  rename_i lead body divided
  split at divided
  · rename_i second rest shape
    rw [isAbsolute_of_pieces shape] at relative
    cases relative
  · -- a dot at the start is counted on its own, not among the pieces
    rename_i rest shape
    cases divided
    rw [shape, marks, List.countP_cons_of_pos (by decide), behind, Nat.add_comm]
    rfl
  · rename_i noRoot noDot
    cases divided
    rw [if_pos rfl, Nat.zero_add]
    cases shape : pieces path with
    | nil => rfl
    | cons first rest =>
        have notDot : first ≠ "." := fun dot => noDot rest (by rw [shape, dot])
        rw [marks, List.countP_cons, List.countP_cons, behind]
        simp [isComponent, notDot]

/-- **Which names say where a file is.** -/
theorem isPathLike_iff {name : String} : isPathLike name = true ↔ SaysWhere name := by
  rw [isPathLike, Bool.or_eq_true, decide_eq_true_iff, SaysWhere]
  cases absolute : isAbsolute name with
  | true => simp
  | false =>
      rw [componentCount_of_relative absolute, one_lt_countP_iff]
      simp [getElem?_marks]

end Files.Path

open Files.Path (SaysWhere isPathLike isPathLike_iff join)

/-! ### What a name resolves to -/

/-- What a name resolves to: itself if it says where a file is, or else the file of this name in the first of
some places that holds one. -/
inductive Resolves (isFile : String → Bool) (places : List String) (name : String) : String → Prop
  | itself (saysWhere : SaysWhere name) (file : isFile name = true) : Resolves isFile places name name
  | inPlace {before after : List String} {place : String} (bare : ¬ SaysWhere name)
      (divided : places = before ++ place :: after)
      (earlier : ∀ other ∈ before, isFile (join other name) = false)
      (file : isFile (join place name) = true) : Resolves isFile places name (join place name)

section Resolution

variable {isFile : String → Bool} {places : List String} {name path : String}

theorem Resolves.leadsToFile (resolves : Resolves isFile places name path) : isFile path = true := by
  cases resolves with
  | itself _ file => exact file
  | inPlace _ _ _ file => exact file

theorem resolves_iff_of_saysWhere (saysWhere : SaysWhere name) :
    Resolves isFile places name path ↔ path = name ∧ isFile name = true := by
  constructor
  · intro resolves
    cases resolves with
    | itself _ file => exact ⟨rfl, file⟩
    | inPlace bare => exact absurd saysWhere bare
  · rintro ⟨rfl, file⟩
    exact .itself saysWhere file

/-- A bare name is looked for in one place after another. -/
theorem resolves_iff_of_bare (bare : ¬ SaysWhere name) :
    Resolves isFile places name path ↔
      (places.map fun place => join place name).find? isFile = some path := by
  rw [List.find?_map, Option.map_eq_some_iff]
  constructor
  · intro resolves
    cases resolves with
    | itself saysWhere => exact absurd saysWhere bare
    | @inPlace before after place _ divided earlier file =>
        refine ⟨place, List.find?_eq_some_iff_append.mpr ⟨file, before, after, divided, ?_⟩, rfl⟩
        intro other member
        rw [Function.comp_apply, earlier other member]
        rfl
  · rintro ⟨place, found, rfl⟩
    obtain ⟨file, before, after, divided, earlier⟩ := List.find?_eq_some_iff_append.mp found
    refine .inPlace bare divided (fun other member => ?_) file
    simpa using earlier other member

theorem resolveOn_eq_ok_iff : resolveOn isFile places name = .ok path ↔ Resolves isFile places name path := by
  unfold resolveOn
  by_cases saysWhere : SaysWhere name
  · rw [if_pos (isPathLike_iff.mpr saysWhere), resolves_iff_of_saysWhere saysWhere]
    split
    · rename_i file
      simp [file, eq_comm]
    · rename_i noFile
      simp [noFile]
  · rw [if_neg (mt isPathLike_iff.mp saysWhere), resolves_iff_of_bare saysWhere]
    split
    · rename_i candidate found
      simp [found]
    · rename_i none
      simp [none]

theorem resolveOn_error {missing : MissingTool} (failed : resolveOn isFile places name = .error missing) :
    missing = ⟨name, if isPathLike name then name else "PATH"⟩ := by
  unfold resolveOn at failed
  split at failed
  · rename_i pathLike
    split at failed
    · cases failed
    · cases failed
      rw [if_pos pathLike]
  · rename_i bare
    split at failed
    · cases failed
    · cases failed
      rw [if_neg bare]

/-- In one directory a tool is found as on a search path with this one entry. -/
theorem resolveIn_eq_ok_iff {directory : String} :
    resolveIn isFile directory name = .ok path ↔ Resolves isFile [directory] name path := by
  rw [← resolveOn_eq_ok_iff]
  unfold resolveIn resolveOn
  by_cases pathLike : isPathLike name = true
  · simp only [if_pos pathLike]
    split <;> simp
  · simp only [if_neg pathLike, List.map_cons, List.map_nil]
    by_cases file : isFile (join directory name) = true
    · simp [file]
    · simp [file]

theorem resolveIn_error {directory : String} {missing : MissingTool}
    (failed : resolveIn isFile directory name = .error missing) : missing = ⟨name, directory⟩ := by
  unfold resolveIn at failed
  generalize (if isPathLike name then name else join directory name) = candidate at failed
  dsimp only at failed
  split at failed
  · cases failed
  · cases failed
    rfl

/-- **Inserted places make no difference** if they do not hold the tool, or stand behind one that does. -/
theorem resolveOn_insert {before extra : List String}
    (kept : SaysWhere name ∨ (∀ entry ∈ extra, isFile (join entry name) = false) ∨
      ∃ entry ∈ before, isFile (join entry name) = true) (after : List String) :
    resolveOn isFile (before ++ extra ++ after) name = resolveOn isFile (before ++ after) name := by
  unfold resolveOn
  by_cases saysWhere : SaysWhere name
  · rw [if_pos (isPathLike_iff.mpr saysWhere), if_pos (isPathLike_iff.mpr saysWhere)]
  · have same : ((before ++ extra ++ after).map fun entry => join entry name).find? isFile =
        ((before ++ after).map fun entry => join entry name).find? isFile := by
      simp only [List.map_append, List.find?_append]
      rcases kept.resolve_left saysWhere with absent | ⟨entry, known, file⟩
      · have none : (extra.map fun entry => join entry name).find? isFile = none := by
          rw [List.find?_eq_none]
          intro candidate member
          obtain ⟨entry, inserted, rfl⟩ := List.mem_map.mp member
          rw [absent entry inserted]
          exact Bool.false_ne_true
        rw [none, Option.or_none]
      · -- the search ends among the places before
        have found : ((before.map fun entry => join entry name).find? isFile).isSome = true :=
          List.find?_isSome.mpr ⟨_, List.mem_map_of_mem known, file⟩
        obtain ⟨candidate, isFound⟩ := Option.isSome_iff_exists.mp found
        rw [isFound, Option.some_or, Option.some_or]
    rw [same]

end Resolution

/-! ### Tools in their roles -/

/-- What a tool does. -/
inductive ToolRole where
  | compiler
  | merger
  | linker
  | simulator
  deriving DecidableEq

namespace ToolRole

/-- The roles in the order in which the tools are looked for. -/
def all : List ToolRole :=
  [compiler, merger, linker, simulator]

theorem mem_all (role : ToolRole) : role ∈ all := by
  cases role <;> decide

/-- Where a tool is looked for if its name does not say where it is. -/
def places (searchPath : Option String) (directory : String) : ToolRole → List String
  | compiler | merger => [directory]
  | linker | simulator => searchEntries searchPath

/-- Where a tool that is missing is said to have been looked for. -/
def searched (directory name : String) : ToolRole → String
  | compiler | merger => directory
  | linker | simulator => if isPathLike name then name else "PATH"

end ToolRole

/-- The name of the tool in a role. -/
def ToolSettings.name (tools : ToolSettings) : ToolRole → String
  | .compiler => tools.compiler
  | .merger => tools.merger
  | .linker => tools.linker
  | .simulator => tools.simulator

/-- The path of the tool in a role. -/
def ToolPaths.path (paths : ToolPaths) : ToolRole → String
  | .compiler => paths.compiler
  | .merger => paths.merger
  | .linker => paths.linker
  | .simulator => paths.simulator

section Discovery

variable {isFile : String → Bool} {searchPath : Option String} {directory : String} {tools : ToolSettings}

/-- The look-up of a role. -/
def resolve (isFile : String → Bool) (searchPath : Option String) (directory : String)
    (tools : ToolSettings) : ToolRole → Except MissingTool String
  | .compiler => resolveIn isFile directory tools.compiler
  | .merger => resolveIn isFile directory tools.merger
  | .linker => resolveOn isFile (searchEntries searchPath) tools.linker
  | .simulator => resolveOn isFile (searchEntries searchPath) tools.simulator

theorem resolve_eq_ok_iff {role : ToolRole} {path : String} :
    resolve isFile searchPath directory tools role = .ok path ↔
      Resolves isFile (role.places searchPath directory) (tools.name role) path := by
  cases role with
  | compiler | merger => exact resolveIn_eq_ok_iff
  | linker | simulator => exact resolveOn_eq_ok_iff

theorem resolve_eq_error_iff {role : ToolRole} {missing : MissingTool} :
    resolve isFile searchPath directory tools role = .error missing ↔
      (∀ path, ¬ Resolves isFile (role.places searchPath directory) (tools.name role) path) ∧
      missing = ⟨tools.name role, role.searched directory (tools.name role)⟩ := by
  have tells : ∀ {missing}, resolve isFile searchPath directory tools role = .error missing →
      missing = ⟨tools.name role, role.searched directory (tools.name role)⟩ := by
    intro missing failed
    cases role with
    | compiler | merger => exact resolveIn_error failed
    | linker | simulator => exact resolveOn_error failed
  constructor
  · intro failed
    refine ⟨fun path resolves => ?_, tells failed⟩
    rw [resolve_eq_ok_iff.mpr resolves] at failed
    cases failed
  · rintro ⟨nowhere, rfl⟩
    cases found : resolve isFile searchPath directory tools role with
    | ok path => exact absurd (resolve_eq_ok_iff.mp found) (nowhere path)
    | error missing => rw [tells found]

/-- **A discovery is the four look-ups**, one after another. -/
theorem map_discover :
    (fun paths : ToolPaths => ToolRole.all.map paths.path) <$> discover isFile searchPath directory tools =
      ToolRole.all.mapM (resolve isFile searchPath directory tools) := by
  simp only [discover, ToolRole.all, List.mapM_cons, List.mapM_nil, resolve]
  cases resolveIn isFile directory tools.compiler <;> cases resolveIn isFile directory tools.merger <;>
    cases resolveOn isFile (searchEntries searchPath) tools.linker <;>
    cases resolveOn isFile (searchEntries searchPath) tools.simulator <;> rfl

theorem discover_eq_ok_iff {paths : ToolPaths} :
    discover isFile searchPath directory tools = .ok paths ↔
      ∀ role, resolve isFile searchPath directory tools role = .ok (paths.path role) := by
  have lookUps := @map_discover isFile searchPath directory tools
  constructor
  · intro found role
    rw [found] at lookUps
    have each := mapM_eq_ok_iff.mp lookUps.symm
    rw [List.forall₂_map_right_iff, List.forall₂_same] at each
    exact each role role.mem_all
  · intro each
    have found : ToolRole.all.mapM (resolve isFile searchPath directory tools) =
        .ok (ToolRole.all.map paths.path) := by
      rw [mapM_eq_ok_iff, List.forall₂_map_right_iff, List.forall₂_same]
      exact fun role _ => each role
    rw [found] at lookUps
    cases discovered : discover isFile searchPath directory tools with
    | error missing =>
        rw [discovered] at lookUps
        cases lookUps
    | ok others =>
        rw [discovered] at lookUps
        injection lookUps with same
        -- four paths in their order are the paths of the four roles
        obtain ⟨compiler, merger, linker, simulator⟩ := paths
        obtain ⟨compiler', merger', linker', simulator'⟩ := others
        simpa [ToolRole.all, ToolPaths.path] using same

theorem discover_eq_error_iff {missing : MissingTool} :
    discover isFile searchPath directory tools = .error missing ↔
      ∃ before role after, ToolRole.all = before ++ role :: after ∧
        (∀ earlier ∈ before, ∃ path, resolve isFile searchPath directory tools earlier = .ok path) ∧
        resolve isFile searchPath directory tools role = .error missing := by
  rw [← mapM_eq_error_iff, ← map_discover]
  cases discover isFile searchPath directory tools with
  | error other => simp
  | ok paths => simp

/-- A discovery is complete: it succeeds when every look-up does. -/
theorem exists_discover_eq_ok_iff :
    (∃ paths, discover isFile searchPath directory tools = .ok paths) ↔
      ∀ role, ∃ path, resolve isFile searchPath directory tools role = .ok path := by
  constructor
  · rintro ⟨paths, found⟩ role
    exact ⟨_, discover_eq_ok_iff.mp found role⟩
  · intro each
    cases discovered : discover isFile searchPath directory tools with
    | ok paths => exact ⟨paths, rfl⟩
    | error missing =>
        obtain ⟨_, role, _, -, -, failed⟩ := discover_eq_error_iff.mp discovered
        obtain ⟨path, found⟩ := each role
        rw [found] at failed
        cases failed

theorem discover_congr {searchPath' : Option String} {directory' : String}
    (same : ∀ role, resolve isFile searchPath directory tools role =
      resolve isFile searchPath' directory' tools role) :
    discover isFile searchPath directory tools = discover isFile searchPath' directory' tools := by
  cases discovered : discover isFile searchPath' directory' tools with
  | ok paths =>
      rw [discover_eq_ok_iff] at discovered ⊢
      exact fun role => (same role).trans (discovered role)
  | error missing =>
      rw [discover_eq_error_iff] at discovered ⊢
      simpa only [same] using discovered

end Discovery

theorem searchEntries_intercalate {entries : List String} (nonempty : entries ≠ [])
    (free : ∀ entry ∈ entries, ':' ∉ entry.toList) :
    searchEntries (some (String.intercalate ":" entries)) = entries := by
  have joined : (String.intercalate ":" entries).toList = [':'].intercalate (entries.map String.toList) :=
    String.toList_intercalate
  have someEntry : entries.map String.toList ≠ [] := mt List.map_eq_nil_iff.mp nonempty
  have divided := Text.Chars.pieces_intercalate someEntry (List.forall_mem_map.mpr free)
  rw [searchEntries, Option.getD_some, Text.pieces, joined, divided, List.map_map]
  exact List.map_id'' (fun entry => String.ofList_toList) entries

/-- **A discovery finds what the names resolve to.** It succeeds exactly when all four names resolve, the
compiler and the merger in the directory, the linker and the simulator on the search path, and then gives
what they resolve to, which are files. Otherwise it names the first tool that does not resolve. The directory
does not affect the linker and the simulator, nor the search path the compiler and the merger. Entries that
are inserted into the search path change nothing if they do not hold a tool, or stand behind one that does. No
search path is the same as an empty one, which has one empty entry; any other list of entries can be given. -/
theorem discover_resolves (isFile : String → Bool) (searchPath : Option String) (directory : String)
    (tools : ToolSettings) :
    let discovered := discover isFile searchPath directory tools
    let resolves := fun role : ToolRole =>
      Resolves isFile (role.places searchPath directory) (tools.name role)
    ((∃ paths, discovered = .ok paths) ↔ ∀ role, ∃ path, resolves role path) ∧
    (∀ paths, discovered = .ok paths ↔ ∀ role, resolves role (paths.path role)) ∧
    (∀ paths, discovered = .ok paths → ∀ role, isFile (paths.path role) = true) ∧
    (∀ missing, discovered = .error missing ↔
      ∃ before role after, ToolRole.all = before ++ role :: after ∧
        (∀ earlier ∈ before, ∃ path, resolves earlier path) ∧ (∀ path, ¬ resolves role path) ∧
        missing = ⟨tools.name role, role.searched directory (tools.name role)⟩) ∧
    (∀ directory' paths paths', discovered = .ok paths →
      discover isFile searchPath directory' tools = .ok paths' →
      paths.linker = paths'.linker ∧ paths.simulator = paths'.simulator) ∧
    (∀ searchPath' paths paths', discovered = .ok paths →
      discover isFile searchPath' directory tools = .ok paths' →
      paths.compiler = paths'.compiler ∧ paths.merger = paths'.merger) ∧
    (∀ searchPath' before extra after, searchEntries searchPath = before ++ after →
      searchEntries searchPath' = before ++ extra ++ after →
      (∀ name ∈ [tools.linker, tools.simulator], SaysWhere name ∨
        (∀ entry ∈ extra, isFile (join entry name) = false) ∨
        ∃ entry ∈ before, isFile (join entry name) = true) →
      discover isFile searchPath' directory tools = discovered) ∧
    searchEntries none = [""] ∧ searchEntries (some "") = [""] ∧
    ∀ entries : List String, entries ≠ [] → (∀ entry ∈ entries, ':' ∉ entry.toList) →
      searchEntries (some (String.intercalate ":" entries)) = entries := by
  intro discovered resolves
  refine ⟨?_, ?_, ?_, ?_, ?_, ?_, ?_, rfl, rfl, fun entries => searchEntries_intercalate⟩
  · simp only [resolves, ← resolve_eq_ok_iff]
    exact exists_discover_eq_ok_iff
  · intro paths
    simp only [resolves, ← resolve_eq_ok_iff]
    exact discover_eq_ok_iff
  · intro paths found role
    exact (resolve_eq_ok_iff.mp (discover_eq_ok_iff.mp found role)).leadsToFile
  · intro missing
    refine discover_eq_error_iff.trans ?_
    simp only [resolve_eq_ok_iff, resolve_eq_error_iff, resolves]
  · intro directory' paths paths' found found'
    have each := discover_eq_ok_iff.mp found
    have each' := discover_eq_ok_iff.mp found'
    exact ⟨Except.ok.inj ((each .linker).symm.trans (each' .linker)),
      Except.ok.inj ((each .simulator).symm.trans (each' .simulator))⟩
  · intro searchPath' paths paths' found found'
    have each := discover_eq_ok_iff.mp found
    have each' := discover_eq_ok_iff.mp found'
    exact ⟨Except.ok.inj ((each .compiler).symm.trans (each' .compiler)),
      Except.ok.inj ((each .merger).symm.trans (each' .merger))⟩
  · intro searchPath' before extra after entries entries' kept
    refine discover_congr fun role => ?_
    cases role with
    | compiler | merger => rfl
    | linker =>
        rw [resolve, resolve, entries, entries', resolveOn_insert (kept _ (by simp))]
    | simulator =>
        rw [resolve, resolve, entries, entries', resolveOn_insert (kept _ (by simp))]

/-- The files of a system with two linkers on its search path. -/
def twoLinkers (path : String) : Bool :=
  ["bin/llc", "bin/llvm-link", "b/ld.lld", "c/ld.lld", "/opt/pasim"].contains path

/-- The first linker on a search path with an empty entry is found, whatever is inserted behind it. -/
theorem discover_resolves_two_linkers :
    discover twoLinkers (some "a::b") "bin" { simulator := "/opt/pasim" } =
      .ok ⟨"bin/llc", "bin/llvm-link", "b/ld.lld", "/opt/pasim"⟩ ∧
    searchEntries (some "a::b") = ["a", "", "b"] ++ [] ∧
    searchEntries (some "a::b:c") = ["a", "", "b"] ++ ["c"] ++ [] ∧
    discover twoLinkers (some "a::b:c") "bin" { simulator := "/opt/pasim" } =
      .ok ⟨"bin/llc", "bin/llvm-link", "b/ld.lld", "/opt/pasim"⟩ ∧
    ∀ paths', discover twoLinkers (some "c:b") "bin" { simulator := "/opt/pasim" } = .ok paths' →
      "bin/llc" = paths'.compiler ∧ "bin/llvm-link" = paths'.merger := by
  have found : discover twoLinkers (some "a::b") "bin" { simulator := "/opt/pasim" } =
      .ok ⟨"bin/llc", "bin/llvm-link", "b/ld.lld", "/opt/pasim"⟩ := by rfl
  have entries : searchEntries (some "a::b") = ["a", "", "b"] ++ [] := by rfl
  have entries' : searchEntries (some "a::b:c") = ["a", "", "b"] ++ ["c"] ++ [] := by rfl
  have absolute : SaysWhere "/opt/pasim" := Or.inl rfl
  have holds : twoLinkers (join "b" "ld.lld") = true := by rfl
  obtain ⟨-, -, -, -, -, other, insertion, -⟩ :=
    discover_resolves twoLinkers (some "a::b") "bin" { simulator := "/opt/pasim" }
  refine ⟨found, entries, entries', (insertion _ _ _ _ entries entries' ?_).trans found,
    fun paths' found' => other _ _ paths' found found'⟩
  intro name member
  rcases List.mem_cons.mp member with rfl | member
  · exact Or.inr (Or.inr ⟨"b", by simp, holds⟩)
  · rw [List.mem_singleton.mp member]
    exact Or.inl absolute

end SinglePath
