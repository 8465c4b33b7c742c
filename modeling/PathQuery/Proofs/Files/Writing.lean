import Mathlib.Data.List.Basic
import Mathlib.Tactic.SplitIfs
import PathQuery.Files
import PathQuery.Proofs.Text.Outcome

set_option autoImplicit false

namespace PathQuery.Files

variable {fs fs' : Files} {here there names rest : List String} {path name last : String}
  {entry : Entry} {content : List UInt8}

section Lookup

theorem lookup_filter_ne {entries : List (List String × Entry)} {other : List String}
    (apart : other ≠ names) :
    (entries.filter (·.1 ≠ names)).lookup other = entries.lookup other := by
  induction entries with
  | nil => rfl
  | cons e entries ih =>
    obtain ⟨key, value⟩ := e
    by_cases same : key = names
    · subst same
      rw [List.filter_cons_of_neg (by simp), ih, List.lookup_cons, beq_false_of_ne apart]
    · rw [List.filter_cons_of_pos (by simpa using same), List.lookup_cons, List.lookup_cons, ih]

theorem lookup_set (named : names ≠ []) (entry : Entry) (other : List String) :
    (fs.set names entry).lookup other = if other = names then some entry else fs.lookup other := by
  by_cases same : other = names
  · subst same
    simp [lookup, set, named]
  · have skipped := @lookup_filter_ne names fs.entries other same
    simp only [lookup, set, List.lookup_cons, beq_false_of_ne same, skipped, if_neg same]

end Lookup

section Walks

structure IsName (name : String) : Prop where
  something : ¬(name = "" ∨ name = ".")
  not_up : name ≠ ".."
  short : name.utf8ByteSize ≤ maxNameSize

/-- Where the parts of a path lead from a directory. Only the last of them can be a file. -/
inductive Walks (fs : Files) : (here parts there : List String) → Prop where
  | done {here : List String} : Walks fs here [] here
  | stay {here rest there : List String} {name : String} (idle : name = "" ∨ name = ".")
      (walks : Walks fs here rest there) : Walks fs here (name :: rest) there
  | up {here rest there : List String} {name : String} (up : name = "..")
      (walks : Walks fs here.dropLast rest there) : Walks fs here (name :: rest) there
  | enter {here rest there : List String} {name : String} (named : IsName name)
      (found : fs.lookup (here ++ [name]) = some .directory)
      (walks : Walks fs (here ++ [name]) rest there) : Walks fs here (name :: rest) there
  | file {here rest : List String} {name : String} {content : List UInt8} (named : IsName name)
      (found : fs.lookup (here ++ [name]) = some (.file content)) (last : rest = []) :
      Walks fs here (name :: rest) (here ++ [name])

theorem walk_of_walks {parts : List String} (walks : Walks fs here parts there) :
    walk fs here parts = .ok there := by
  induction walks with
  | done => rfl
  | stay idle _ ih => rw [walk, if_pos idle, ih]
  | up up _ ih =>
    subst up
    rw [walk, if_neg (by decide), if_pos rfl, ih]
  | enter named found _ ih =>
    rw [walk, if_neg named.something, if_neg named.not_up, if_neg (Nat.not_lt.mpr named.short)]
    simp [found, ih]
  | file named found last =>
    rw [walk, if_neg named.something, if_neg named.not_up, if_neg (Nat.not_lt.mpr named.short)]
    simp [found, last]

theorem walks_of_walk {parts : List String} (walk : walk fs here parts = .ok there) :
    Walks fs here parts there := by
  fun_induction Files.walk fs here parts with
  | case1 here =>
    obtain rfl := Except.ok.inj walk
    exact .done
  | case2 here name rest idle ih => exact .stay idle (ih walk)
  | case3 here rest idle ih => exact .up rfl (ih walk)
  | case4 => cases walk
  | case5 => cases walk
  | case6 here name rest idle up long next found ih =>
    exact .enter ⟨idle, up, Nat.le_of_not_lt long⟩ found (ih walk)
  | case7 here name rest idle up long next content found last =>
    obtain rfl := Except.ok.inj walk
    exact .file ⟨idle, up, Nat.le_of_not_lt long⟩ found (List.isEmpty_iff.mp last)
  | case8 => cases walk

theorem walks_iff {parts : List String} :
    walk fs here parts = .ok there ↔ Walks fs here parts there :=
  ⟨walks_of_walk, walk_of_walks⟩

theorem Walks.append {front final : List String} (walks : Walks fs here (front ++ [""]) there)
    (kept : ∀ names, fs.lookup names = some .directory → fs'.lookup names = some .directory)
    (behind : Walks fs' there rest final) : Walks fs' here (front ++ rest) final := by
  induction front generalizing here with
  | nil =>
    cases walks with
    | stay _ walks =>
      cases walks
      exact behind
    | up up _ => simp at up
    | enter named _ _ => exact absurd (.inl rfl) named.something
    | file named _ _ => exact absurd (.inl rfl) named.something
  | cons name front ih =>
    cases walks with
    | stay idle walks => exact .stay idle (ih walks)
    | up up walks => exact .up up (ih walks)
    | enter named found walks => exact .enter named (kept _ found) (ih walks)
    | file _ _ last => simp at last

end Walks

structure Grows (fs fs' : Files) : Prop where
  current : fs'.current = fs.current
  kept : ∀ names entry, fs.lookup names = some entry → fs'.lookup names = some entry

namespace Grows

theorem refl (fs : Files) : Grows fs fs := ⟨rfl, fun _ _ found => found⟩

theorem trans {fs'' : Files} (first : Grows fs fs') (second : Grows fs' fs'') : Grows fs fs'' :=
  ⟨second.current.trans first.current,
    fun names entry found => second.kept names entry (first.kept names entry found)⟩

theorem set (free : fs.lookup names = none) (entry : Entry) : Grows fs (fs.set names entry) where
  current := rfl
  kept other found there := by
    have named : names ≠ [] := by
      rintro rfl
      simp [lookup] at free
    have apart : other ≠ names := by
      rintro rfl
      simp [free] at there
    rw [lookup_set named, if_neg apart, there]

theorem walks {parts : List String} (grows : Grows fs fs') (walks : Walks fs here parts there) :
    Walks fs' here parts there := by
  induction walks with
  | done => exact .done
  | stay idle _ ih => exact .stay idle ih
  | up up _ ih => exact .up up ih
  | enter named found _ ih => exact .enter named (grows.kept _ _ found) ih
  | file named found last => exact .file named (grows.kept _ _ found) last

end Grows

section Read

theorem resolve_eq_ok : fs.resolve path = .ok names ↔
    path ≠ "" ∧ '\x00' ∉ path.toList ∧ Walks fs (fs.origin path) (parts path) names := by
  rw [resolve]
  split_ifs with empty invalid
  · simp [empty]
  · simp [empty, invalid]
  · simp [empty, invalid, walks_iff]

theorem content_eq_ok : entry.content = .ok content ↔ entry = .file content := by
  cases entry <;> simp [Entry.content]

theorem read_eq_ok : fs.read path = .ok content ↔ path ≠ "" ∧ '\x00' ∉ path.toList ∧
    ∃ names, Walks fs (fs.origin path) (parts path) names ∧
      fs.lookup names = some (.file content) := by
  have opened (entry : Entry) : fs.open? path = .ok entry ↔
      ∃ names, fs.resolve path = .ok names ∧ fs.lookup names = some entry := by
    rw [open?, bind_eq_ok]
    refine exists_congr fun names => and_congr_right fun _ => ?_
    cases fs.lookup names <;> simp
  simp only [read, bind_eq_ok, opened, resolve_eq_ok, content_eq_ok]
  constructor
  · rintro ⟨entry, ⟨names, ⟨something, valid, walks⟩, found⟩, rfl⟩
    exact ⟨something, valid, names, walks, found⟩
  · rintro ⟨something, valid, names, walks, found⟩
    exact ⟨.file content, ⟨names, ⟨something, valid, walks⟩, found⟩, rfl⟩

theorem Grows.read (grows : Grows fs fs') (there : fs.read path = .ok content) :
    fs'.read path = .ok content := by
  obtain ⟨something, valid, names, walks, found⟩ := read_eq_ok.mp there
  have origin : fs'.origin path = fs.origin path := by rw [origin, origin, grows.current]
  exact read_eq_ok.mpr ⟨something, valid, names, origin ▸ grows.walks walks, grows.kept _ _ found⟩

end Read

section Write

theorem resolveLast_eq_ok {parts : List String} (resolved : fs.resolveLast here parts =
    .ok (names, some last)) :
    Walks fs here (parts.dropLast ++ [""]) names ∧ IsName last ∧
      parts = parts.dropLast ++ [last] := by
  cases final : parts.getLast? with
  | none => simp [resolveLast, final] at resolved
  | some name =>
    simp only [resolveLast, final] at resolved
    obtain ⟨there, walk, resolved⟩ := bind_eq_ok.mp resolved
    split_ifs at resolved with idle long
    · simp at resolved
    · obtain ⟨rfl, rfl⟩ : there = names ∧ name = last := by simpa using resolved
      obtain ⟨empty, dot, up⟩ : name ≠ "" ∧ name ≠ "." ∧ name ≠ ".." := by simpa using idle
      refine ⟨walks_of_walk walk, ⟨by simp [empty, dot], up, Nat.le_of_not_lt long⟩, ?_⟩
      exact (List.dropLast_append_getLast? name final).symm

theorem write_eq_ok : fs.write path content = .ok fs' ↔ path ≠ "" ∧ '\x00' ∉ path.toList ∧
    ∃ names last, fs.resolveLast (fs.origin path) (parts path) = .ok (names, some last) ∧
      fs.lookup (names ++ [last]) ≠ some .directory ∧
      fs' = fs.set (names ++ [last]) (.file content) := by
  rw [write]
  split_ifs with empty invalid
  · simp [empty]
  · simp [empty, invalid]
  · simp only [empty, invalid, bind_eq_ok, not_false_eq_true, ne_eq, true_and]
    constructor
    · rintro ⟨⟨names, last⟩, resolved, written⟩
      cases last with
      | none => simp at written
      | some last =>
        dsimp only at written
        split at written
        · simp at written
        next free => exact ⟨names, last, resolved, free, (Except.ok.inj written).symm⟩
    · rintro ⟨names, last, resolved, free, rfl⟩
      refine ⟨(names, some last), resolved, ?_⟩
      dsimp only
      split
      next there => exact absurd there free
      next => rfl

theorem write_any (written : fs.write path content = .ok fs') (content' : List UInt8) :
    ∃ fs'', fs.write path content' = .ok fs'' := by
  obtain ⟨something, valid, names, last, resolved, free, _⟩ := write_eq_ok.mp written
  exact ⟨_, write_eq_ok.mpr ⟨something, valid, names, last, resolved, free, rfl⟩⟩

theorem read_write (written : fs.write path content = .ok fs') : fs'.read path = .ok content := by
  obtain ⟨something, valid, names, last, resolved, free, rfl⟩ := write_eq_ok.mp written
  obtain ⟨walks, named, split⟩ := resolveLast_eq_ok resolved
  have named' : names ++ [last] ≠ [] := by simp
  have found : (fs.set (names ++ [last]) (.file content)).lookup (names ++ [last]) =
      some (.file content) := by
    rw [lookup_set named', if_pos rfl]
  -- The way to the file leads through directories, and the file has not taken the place of one.
  have kept (other : List String) (there : fs.lookup other = some .directory) :
      (fs.set (names ++ [last]) (.file content)).lookup other = some .directory := by
    have apart : other ≠ names ++ [last] := by
      rintro rfl
      exact free there
    rw [lookup_set named', if_neg apart, there]
  refine read_eq_ok.mpr ⟨something, valid, names ++ [last], ?_, found⟩
  rw [split]
  exact walks.append kept (.file named found rfl)

end Write

section Directories

theorem makeDirectory_grows {parts : List String} (made : fs.makeDirectory here parts = .ok fs') :
    Grows fs fs' := by
  obtain ⟨⟨names, last⟩, _, made⟩ := bind_eq_ok.mp made
  cases last with
  | none => simp at made
  | some last =>
    dsimp only at made
    split at made
    · simp at made
    next free =>
      obtain rfl := Except.ok.inj made
      exact .set free .directory

theorem ensureDirectory_grows {parts : List String}
    (ensured : fs.ensureDirectory here parts = .ok fs') : Grows fs fs' := by
  unfold ensureDirectory at ensured
  split at ensured
  next made =>
    obtain rfl := Except.ok.inj ensured
    exact makeDirectory_grows made
  next =>
    split_ifs at ensured
    obtain rfl := Except.ok.inj ensured
    exact .refl fs

theorem Attempt.of_grows {ε : Type} {result : Except ε Files}
    (grows : ∀ fs', result = .ok fs' → Grows fs fs') : Grows fs (Attempt.of fs result).files := by
  cases result with
  | error e => exact .refl fs
  | ok fs' => exact grows fs' rfl

theorem Attempt.andThen_grows {ε : Type} {a : Attempt ε} {change : Files → Except ε Files}
    (first : Grows fs a.files) (grows : ∀ fs', change a.files = .ok fs' → Grows a.files fs') :
    Grows fs (a.andThen change).files := by
  unfold Attempt.andThen
  split
  · exact first
  · exact first.trans (of_grows grows)

theorem Attempt.result_eq_ok {ε : Type} {a : Attempt ε} :
    a.result = .ok fs ↔ a.failure = none ∧ a.files = fs := by
  cases failed : a.failure <;> simp [Attempt.result, failed]

theorem makeDirectories_grows (fs : Files) (here outer : List String) :
    Grows fs (fs.makeDirectories here outer).files := by
  induction outer with
  | nil => exact .refl fs
  | cons last outer ih =>
    rw [makeDirectories]
    split
    · exact Attempt.andThen_grows ih fun _ => ensureDirectory_grows
    · exact Attempt.of_grows fun _ => ensureDirectory_grows

theorem tryParent_grows (fs : Files) (path : String) : Grows fs (fs.tryParent path).files := by
  unfold tryParent
  split_ifs
  · exact .refl fs
  · exact makeDirectories_grows fs _ _

end Directories

/-- Some content can be written to a file, once its directory was made. -/
def Writable (fs : Files) (path : String) : Prop :=
  ∃ content fs', fs.add path content = .ok fs'

end PathQuery.Files
