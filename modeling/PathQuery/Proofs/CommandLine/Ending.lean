import Mathlib
import PathQuery.Proofs.CommandLine.Output
import PathQuery.Proofs.Search.Taking
import PathQuery.Proofs.Tree.Loaded

set_option autoImplicit false

namespace PathQuery.CommandLine

open Loaded

variable {s : Surroundings} {a : Arguments} {c : Settings} {d : Dialect} {q : Query}

/-- The settings of a run. Where none are named those that are kept count, and where these cannot be
had the standard ones do. -/
inductive Settled (s : Surroundings) (a : Arguments) : Settings → Prop where
  | named {path : String} {c : Settings} (given : a.settings = some path)
      (loads : Settings.load s.files path = .ok c) : Settled s a c
  | kept {c : Settings} (absent : a.settings = none)
      (loads : Settings.load s.files (Settings.standardPath s.home) = .ok c) : Settled s a c
  | standard {e : LoadError} (absent : a.settings = none)
      (fails : Settings.load s.files (Settings.standardPath s.home) = .error e) :
      Settled s a Settings.standard

/-- What a run is to go by: its settings, the dialect of its query and the query itself. An argument
goes before a setting, and what either of them turns on is on. -/
structure Planned (s : Surroundings) (a : Arguments) (c : Settings) (d : Dialect) (q : Query) :
    Prop where
  settled : Settled s a c
  known : Dialect.ofName? (a.dialect.getD c.dialect) = some d
  compiled : Query.compile d (a.ignoreCase || c.ignoreCase) a.query = .ok q

/-- What a run can fail on. A tree is only loaded if there are no paths to match. -/
inductive Fails (s : Surroundings) (a : Arguments) : Prop where
  | settings {path : String} {e : LoadError} (given : a.settings = some path)
      (fails : Settings.load s.files path = .error e)
  | dialect {c : Settings} (settled : Settled s a c)
      (unknown : Dialect.ofName? (a.dialect.getD c.dialect) = none)
  | query {c : Settings} {d : Dialect} {e : QueryError} (settled : Settled s a c)
      (known : Dialect.ofName? (a.dialect.getD c.dialect) = some d)
      (refused : Query.compile d (a.ignoreCase || c.ignoreCase) a.query = .error e)
  | tree {e : LoadError} (searches : a.paths = []) (fails : treeOf s a.file = .error e)

theorem settled_iff : Settled s a c ↔ settingsOf s a = .ok c := by
  constructor
  · rintro (⟨given, loads⟩ | ⟨absent, loads⟩ | ⟨absent, fails⟩)
    · simp [settingsOf, given, loads]
    · simp [settingsOf, absent, Settings.loadKept, loads]
    · simp [settingsOf, absent, Settings.loadKept, fails]
  · intro settled
    cases given : a.settings with
    | some path => exact .named given (by simpa [settingsOf, given] using settled)
    | none =>
      cases loads : Settings.load s.files (Settings.standardPath s.home) with
      | ok kept =>
        obtain rfl : kept = c := by
          simpa [settingsOf, given, Settings.loadKept, loads] using settled
        exact .kept given loads
      | error e =>
        obtain rfl : Settings.standard = c := by
          simpa [settingsOf, given, Settings.loadKept, loads] using settled
        exact .standard given loads

/-- The lines and the code where paths are matched, one line for each path in their order. -/
structure Judges (q : Query) (paths : List String) (ending : Ending) : Prop where
  output : ending.output = linesText (paths.map fun path =>
    path ++ ": " ++ if q.isMatch (pathNames path) then "match" else "no match")
  code : ending.code = if ∃ path ∈ paths, q.isMatch (pathNames path) = true then 0 else 1

def label (t : Tree) (showNames : Bool) (id : Nat) : String :=
  if showNames then t.name id else t.path id

/-- The lines of the first results of a search from the root of a tree, and the code. A limit of
zero is none; `unlimited` is the ending with it. -/
structure Prints (q : Query) (t : Tree) (limit : Nat) (showNames : Bool)
    (ending unlimited : Ending) : Prop where
  output : ∃ found last,
    Search.Drains t.graph (q.matchesNode t) (q.search Tree.root .empty) found last ∧
      ending.output = linesText
        ((if limit = 0 then found else found.take limit).map (label t showNames))
  begins : ending.output.toList <+: unlimited.output.toList
  code : ending.code = if unlimited.output = "" then 1 else 0

theorem make_of_planned (planned : Planned s a c d q) :
    Plan.make c a =
      .ok ⟨q, limitOf (a.maxResults.getD c.maxResults), a.showNames || c.showNames⟩ := by
  have known : Dialect.ofName (a.dialect.getD c.dialect) = .ok d := by
    simp [Dialect.ofName, planned.known]
  simp [Plan.make, known, planned.compiled, Except.mapError, bind, Except.bind]

theorem planned_of_make {p : Plan} (settled : Settled s a c) (made : Plan.make c a = .ok p) :
    ∃ d q, Planned s a c d q := by
  obtain ⟨d, named, made⟩ := bind_eq_ok.mp made
  obtain ⟨q, compiled, _⟩ := bind_eq_ok.mp made
  refine ⟨d, q, settled, ?_, mapError_eq_ok.mp compiled⟩
  rw [mapError_eq_ok, Dialect.ofName] at named
  split at named
  next d' known => rw [known, Except.ok.inj named]
  next => cases named

theorem run_of_paths (planned : Planned s a c d q) (paths : a.paths ≠ []) :
    run s a = .ok (matchPaths q a.paths) := by
  simp [run, settled_iff.mp planned.settled, make_of_planned planned, paths, Except.mapError, bind,
    Except.bind]

theorem run_of_tree {t : Tree} (planned : Planned s a c d q) (searches : a.paths = [])
    (loaded : treeOf s a.file = .ok t) :
    run s a = .ok (searchTree
      ⟨q, limitOf (a.maxResults.getD c.maxResults), a.showNames || c.showNames⟩ t) := by
  simp [run, settled_iff.mp planned.settled, make_of_planned planned, searches, loaded,
    Except.mapError, bind, Except.bind]

theorem stages_of_run {r : Report} (ran : run s a = .ok r) :
    ∃ c d q, Planned s a c d q ∧ (a.paths = [] → ∃ t, treeOf s a.file = .ok t) := by
  obtain ⟨c, settled, ran⟩ := bind_eq_ok.mp ran
  obtain ⟨p, made, ran⟩ := bind_eq_ok.mp ran
  obtain ⟨d, q, planned⟩ := planned_of_make (settled_iff.mpr (mapError_eq_ok.mp settled)) made
  refine ⟨c, d, q, planned, fun searches => ?_⟩
  rw [if_pos (by simp [searches])] at ran
  obtain ⟨t, loaded, _⟩ := bind_eq_ok.mp ran
  exact ⟨t, mapError_eq_ok.mp loaded⟩

theorem Settled.unique {c' : Settings} (first : Settled s a c) (second : Settled s a c') :
    c = c' :=
  Except.ok.inj ((settled_iff.mp first).symm.trans (settled_iff.mp second))

theorem run_of_fails (fails : Fails s a) : ∃ e, run s a = .error e := by
  cases ran : run s a with
  | error e => exact ⟨e, rfl⟩
  | ok r =>
    obtain ⟨c, d, q, planned, loads⟩ := stages_of_run ran
    rcases fails with ⟨given, fails⟩ | ⟨settled, unknown⟩ | ⟨settled, known, refused⟩ |
      ⟨searches, fails⟩
    · have settled := settled_iff.mp planned.settled
      simp [settingsOf, given, fails] at settled
    · obtain rfl := settled.unique planned.settled
      simp [planned.known] at unknown
    · obtain rfl := settled.unique planned.settled
      obtain rfl := Option.some.inj (known.symm.trans planned.known)
      simp [planned.compiled] at refused
    · obtain ⟨t, loaded⟩ := loads searches
      simp [loaded] at fails

theorem settled_or_fails (s : Surroundings) (a : Arguments) :
    (∃ c, Settled s a c) ∨ Fails s a := by
  cases settled : settingsOf s a with
  | ok c => exact .inl ⟨c, settled_iff.mpr settled⟩
  | error e =>
    cases given : a.settings with
    | some path => exact .inr (.settings given (by simpa [settingsOf, given] using settled))
    | none => simp [settingsOf, given] at settled

theorem planned_or_fails (s : Surroundings) (a : Arguments) :
    (∃ c d q, Planned s a c d q) ∨ Fails s a := by
  rcases settled_or_fails s a with ⟨c, settled⟩ | fails
  · cases known : Dialect.ofName? (a.dialect.getD c.dialect) with
    | none => exact .inr (.dialect settled known)
    | some d =>
      cases compiled : Query.compile d (a.ignoreCase || c.ignoreCase) a.query with
      | ok q => exact .inl ⟨c, d, q, settled, known, compiled⟩
      | error e => exact .inr (.query settled known compiled)
  · exact .inr fails

theorem execute_of_paths (planned : Planned s a c d q) (paths : a.paths ≠ []) :
    Judges q a.paths (execute s a) where
  output := by
    simp [execute_of_run (run_of_paths planned paths), matchPaths, Function.comp_def]
  code := by
    simp [execute_of_run (run_of_paths planned paths), matchPaths]

theorem searchTree_eq {t : Tree} {found : List Nat} {last : Search Nat}
    (drains : Search.Drains t.graph (q.matchesNode t) (q.search Tree.root .empty) found last)
    (few : found.length ≤ t.size) (limit : Nat) (showNames : Bool) :
    searchTree ⟨q, limitOf limit, showNames⟩ t =
      ⟨(if limit = 0 then found else found.take limit).map (label t showNames), none⟩ := by
  simp only [searchTree, Query.take, drains.take_eq, ← label.eq_def]
  cases limit with
  | zero =>
    have all : found.take t.size = found := List.take_of_length_le few
    simp [limitOf, all]
  | succ n => simp [limitOf]

theorem exists_value_of_treeOf {file : Option String} {t : Tree} (loaded : treeOf s file = .ok t) :
    ∃ v, t = Tree.ofValue v := by
  cases file with
  | none => exact Tree.exists_value_of_ofInput loaded
  | some path =>
    by_cases dash : path = "-"
    · rw [treeOf, if_pos dash] at loaded
      exact Tree.exists_value_of_ofInput loaded
    · rw [treeOf, if_neg dash] at loaded
      exact Tree.exists_value_of_ofFile loaded

def Arguments.unlimited (a : Arguments) : Arguments := { a with maxResults := some 0 }

theorem Planned.unlimited (planned : Planned s a c d q) : Planned s a.unlimited c d q where
  settled := by
    have settled : settingsOf s a = .ok c := settled_iff.mp planned.settled
    exact settled_iff.mpr settled
  known := planned.known
  compiled := planned.compiled

theorem execute_of_tree {t : Tree} (planned : Planned s a c d q) (searches : a.paths = [])
    (loaded : treeOf s a.file = .ok t) :
    Prints q t (a.maxResults.getD c.maxResults) (a.showNames || c.showNames) (execute s a)
      (execute s a.unlimited) := by
  obtain ⟨v, rfl⟩ := exists_value_of_treeOf loaded
  obtain ⟨found, last, drains, few⟩ := (Tree.grown_ofValue v).search_drains q
  have ran := run_of_tree planned searches loaded
  have ran' : run s a.unlimited = .ok _ := run_of_tree planned.unlimited searches loaded
  have no_limit : a.unlimited.maxResults.getD c.maxResults = 0 := rfl
  rw [searchTree_eq drains few] at ran ran'
  rw [no_limit, if_pos rfl] at ran'
  refine ⟨⟨found, last, drains, by rw [execute_of_run ran]⟩, ?_, ?_⟩
  · rw [execute_of_run ran, execute_of_run ran']
    apply linesText_prefix
    apply List.IsPrefix.map
    split
    · exact List.prefix_rfl
    · exact List.take_prefix _ _
  · rw [execute_of_run ran, execute_of_run ran']
    simp only [linesText_eq_empty_iff]
    -- A limit of one at least leaves something of what is not empty.
    by_cases unlimited : a.maxResults.getD c.maxResults = 0
    · cases found <;> simp [unlimited]
    · cases found <;> simp [unlimited]

/-- A run that fails prints nothing and ends with two. Any other run goes by the arguments, and by
the settings where they say nothing. Given paths, it judges these and looks at nothing else; without
them it prints the first results of a search of the tree that it is given. -/
theorem executeLine_ends (s : Surroundings) (arguments : List String) (a : Arguments)
    (accepted : Arguments.read arguments = .ok a) :
    (Fails s a → (executeLine s arguments).code = 2 ∧ (executeLine s arguments).output = "") ∧
    (¬Fails s a → ∃ c d q, Planned s a c d q ∧
      (a.paths ≠ [] → Judges q a.paths (executeLine s arguments) ∧
        ∀ s', Settled s' a c → executeLine s' arguments = executeLine s arguments) ∧
      (a.paths = [] → ∃ t, treeOf s a.file = .ok t ∧
        Prints q t (a.maxResults.getD c.maxResults) (a.showNames || c.showNames)
          (executeLine s arguments) (execute s a.unlimited))) := by
  have line (s : Surroundings) : executeLine s arguments = execute s a := by
    rw [executeLine, accepted]
  simp only [line]
  constructor
  · intro fails
    obtain ⟨e, ran⟩ := run_of_fails fails
    simp [execute_of_error ran]
  · intro passes
    obtain ⟨c, d, q, planned⟩ := (planned_or_fails s a).resolve_right passes
    refine ⟨c, d, q, planned, ?_, ?_⟩
    · intro paths
      refine ⟨execute_of_paths planned paths, fun s' settled => ?_⟩
      have planned' : Planned s' a c d q := ⟨settled, planned.known, planned.compiled⟩
      rw [execute_of_run (run_of_paths planned' paths), execute_of_run (run_of_paths planned paths)]
    · intro searches
      cases loaded : treeOf s a.file with
      | error e => exact absurd (.tree searches loaded) passes
      | ok t => exact ⟨t, rfl, execute_of_tree planned searches loaded⟩

theorem executeLine_ends_with_limit :
    ∃ (s : Surroundings) (a : Arguments) (c : Settings) (d : Dialect) (q : Query) (t : Tree),
      Arguments.read ["-n", "1", "*"] = .ok a ∧ Planned s a c d q ∧ treeOf s a.file = .ok t ∧
      Prints q t 1 c.showNames (executeLine s ["-n", "1", "*"]) (execute s a.unlimited) ∧
      (executeLine s ["-n", "1", "*"]).output = "/a\n" := by
  -- The input is a list of two names.
  let s : Surroundings := ⟨.empty [], "/home", [91, 34, 97, 34, 44, 34, 98, 34, 93]⟩
  let a : Arguments := ⟨"*", none, none, false, some 1, false, [], none⟩
  have accepted : Arguments.read ["-n", "1", "*"] = .ok a := rfl
  have ending : execute s a = ⟨0, "/a\n", none⟩ := by cbv
  have line : executeLine s ["-n", "1", "*"] = ⟨0, "/a\n", none⟩ := by
    rw [executeLine, accepted]
    exact ending
  obtain ⟨failing, passing⟩ := executeLine_ends s ["-n", "1", "*"] a accepted
  have passes : ¬Fails s a := by
    intro fails
    have code := (failing fails).1
    simp [line] at code
  obtain ⟨c, d, q, planned, _, searching⟩ := passing passes
  obtain ⟨t, loaded, prints⟩ := searching rfl
  exact ⟨s, a, c, d, q, t, accepted, planned, loaded, prints, by rw [line]⟩

end PathQuery.CommandLine
