import Mathlib.Data.List.Forall2
import PathQuery.Proofs.Alignment.Idle

set_option autoImplicit false

namespace PathQuery.Step

variable {α ν : Type}

/-- What a step leaves of the steps before it, the last one first. A step to the parent takes away
the named step that it finds there; it must not find another one, or nothing at all. -/
def keep? (kept : List (Step α)) : Step α → Option (List (Step α))
  | .sameDir => some kept
  | .parentDir =>
      match kept with
      | top :: below => if top.isNamed then some below else none
      | [] => none
  | s => some (s :: kept)

def settle? (kept : List (Step α)) : List (Step α) → Option (List (Step α))
  | [] => some kept.reverse
  | s :: rest => (keep? kept s).bind (settle? · rest)

/-- The runs of names that a step can stand for by itself. -/
def Spells (accepts : α → ν → Bool) : Step α → List ν → Prop
  | .literal p, run => ∃ name, run = [name] ∧ accepts p name = true
  | .childOf, run => ∃ name, run = [name]
  | .descendantOf, _ => True
  | .sameDir, _ | .parentDir, _ => False

/-- The names can be cut into runs, one for each step in order. -/
def Cuts (accepts : α → ν → Bool) (steps : List (Step α)) (names : List ν) : Prop :=
  ∃ runs : List (List ν), runs.flatten = names ∧ List.Forall₂ (Spells accepts) steps runs

-- Steps that only ever lead down.
def Descends (steps : List (Step α)) : Prop :=
  ∀ s ∈ steps, s.isNamed = true ∨ s = .descendantOf

variable {accepts : α → ν → Bool} {names : List ν}

theorem cuts_nil (names : List ν) : Cuts accepts [] names ↔ names = [] := by
  simp [Cuts, eq_comm]

theorem cuts_cons (s : Step α) (rest : List (Step α)) (names : List ν) :
    Cuts accepts (s :: rest) names ↔
      ∃ run names', names = run ++ names' ∧ s.Spells accepts run ∧ Cuts accepts rest names' := by
  constructor
  · rintro ⟨runs, rfl, matched⟩
    cases matched with
    | cons spells matched => exact ⟨_, _, List.flatten_cons, spells, _, rfl, matched⟩
  · rintro ⟨run, names', rfl, spells, runs, rfl, matched⟩
    exact ⟨run :: runs, List.flatten_cons, .cons spells matched⟩

theorem cuts_around_literal {p : α} :
    Cuts accepts [.descendantOf, .literal p, .descendantOf] names ↔
      ∃ name ∈ names, accepts p name = true := by
  simp only [cuts_cons, cuts_nil]
  constructor
  · rintro ⟨before, _, rfl, _, _, _, rfl, ⟨name, rfl, accepted⟩, _⟩
    exact ⟨name, by simp, accepted⟩
  · rintro ⟨name, member, accepted⟩
    obtain ⟨before, behind, rfl⟩ := List.append_of_mem member
    exact ⟨before, name :: behind, rfl, trivial, [name], behind, rfl, ⟨name, rfl, accepted⟩,
      behind, [], (List.append_nil behind).symm, trivial, rfl⟩

theorem takes_iff_spells {s : Step α} (named : s.isNamed = true) (seg : Nat) :
    s.takes accepts names seg = true ↔ ∃ name, names[seg]? = some name ∧ s.Spells accepts [name] := by
  cases s with
  | childOf =>
    rw [takes_childOf, Option.any_eq_true]
    simp [Spells]
  | literal p =>
    rw [takes_literal, Option.any_eq_true]
    simp [Spells]
  | sameDir | parentDir | descendantOf => simp [isNamed] at named

theorem Spells.eq_singleton {s : Step α} {run : List ν} (spells : s.Spells accepts run)
    (named : s.isNamed = true) : ∃ name, run = [name] := by
  cases s with
  | childOf => exact spells
  | literal p =>
    obtain ⟨name, single, _⟩ := spells
    exact ⟨name, single⟩
  | sameDir | parentDir | descendantOf => simp [isNamed] at named

theorem cuts_cons_named {s : Step α} (named : s.isNamed = true) (rest : List (Step α)) (seg : Nat) :
    Cuts accepts (s :: rest) (names.drop seg) ↔
      s.takes accepts names seg = true ∧ Cuts accepts rest (names.drop (seg + 1)) := by
  rw [cuts_cons, takes_iff_spells named]
  constructor
  · rintro ⟨run, names', split, spells, cuts⟩
    obtain ⟨name, rfl⟩ := spells.eq_singleton named
    obtain ⟨found, rfl⟩ := getElem?_of_drop split
    exact ⟨⟨name, found, spells⟩, cuts⟩
  · rintro ⟨⟨name, found, spells⟩, cuts⟩
    exact ⟨[name], _, drop_of_getElem? found, spells, cuts⟩

theorem cuts_cons_descendantOf (rest : List (Step α)) (seg : Nat) :
    Cuts accepts (.descendantOf :: rest) (names.drop seg) ↔
      ∃ skip ≤ names.length - seg, Cuts accepts rest (names.drop (seg + skip)) := by
  rw [cuts_cons]
  constructor
  · rintro ⟨run, names', split, _, cuts⟩
    have length : names.length - seg = run.length + names'.length := by
      rw [← List.length_drop, split, List.length_append]
    have behind : names.drop (seg + run.length) = names' := by
      rw [← List.drop_drop, split, List.drop_left]
    exact ⟨run.length, by omega, behind ▸ cuts⟩
  · rintro ⟨skip, _, cuts⟩
    refine ⟨(names.drop seg).take skip, names.drop (seg + skip), ?_, trivial, cuts⟩
    rw [← List.drop_drop, List.take_append_drop]

theorem Descends.parents_eq_zero {steps : List (Step α)} (descends : Descends steps) :
    parents steps = 0 := by
  refine List.countP_eq_zero.mpr fun s member up => ?_
  obtain rfl : s = .parentDir := by cases s <;> simp_all [isParentDir]
  simpa [isNamed] using descends _ member

theorem aligns_iff_cuts {steps : List (Step α)} (descends : Descends steps) {seg : Nat}
    (inside : seg ≤ names.length) :
    Aligns accepts names steps seg 0 ↔ Cuts accepts steps (names.drop seg) := by
  induction steps generalizing seg with
  | nil =>
    simp only [Aligns, cuts_nil, true_and, List.drop_eq_nil_iff]
    omega
  | cons s rest ih =>
    have descends' : Descends rest := fun s member => descends s (List.mem_cons_of_mem _ member)
    -- A level that is pushed here would stay to the end.
    have ground {seg detour : Nat} (aligns : Aligns accepts names rest seg detour) : detour = 0 :=
      Nat.le_zero.mp (descends'.parents_eq_zero ▸ aligns.detour_le_parents)
    rcases descends s List.mem_cons_self with named | rfl
    · have taken (takes : s.takes accepts names seg = true) : seg + 1 ≤ names.length := by
        obtain ⟨name, found, _⟩ := (takes_iff_spells named seg).mp takes
        exact (List.getElem?_eq_some_iff.mp found).1
      rw [aligns_named named, cuts_cons_named named]
      constructor
      · rintro (⟨_, takes, aligns⟩ | aligns)
        · exact ⟨takes, (ih descends' (taken takes)).mp aligns⟩
        · exact absurd (ground aligns) (Nat.succ_ne_zero 0)
      · rintro ⟨takes, cuts⟩
        exact .inl ⟨rfl, takes, (ih descends' (taken takes)).mpr cuts⟩
    · rw [cuts_cons_descendantOf]
      constructor
      · rintro (⟨_, skip, within, aligns⟩ | ⟨extra, aligns⟩)
        · exact ⟨skip, within, (ih descends' (by omega)).mp aligns⟩
        · obtain rfl : extra = 0 := by simpa using ground aligns
          exact ⟨0, Nat.zero_le _, (ih descends' inside).mp aligns⟩
      · rintro ⟨skip, within, cuts⟩
        exact .inl ⟨rfl, skip, within, (ih descends' (by omega)).mpr cuts⟩

theorem keep?_cases {kept after : List (Step α)} {s : Step α} (keeps : keep? kept s = some after) :
    (s = .sameDir ∧ after = kept) ∨
    (s = .parentDir ∧ ∃ top, top.isNamed = true ∧ kept = top :: after) ∨
    ((s.isNamed = true ∨ s = .descendantOf) ∧ after = s :: kept) := by
  cases s with
  | sameDir => exact .inl ⟨rfl, (Option.some.inj keeps).symm⟩
  | parentDir =>
    cases kept with
    | nil => simp [keep?] at keeps
    | cons top below =>
      obtain ⟨named, rfl⟩ : top.isNamed = true ∧ below = after := by simpa [keep?] using keeps
      exact .inr (.inl ⟨rfl, top, named, rfl⟩)
  | childOf | literal _ => exact .inr (.inr ⟨.inl rfl, (Option.some.inj keeps).symm⟩)
  | descendantOf => exact .inr (.inr ⟨.inr rfl, (Option.some.inj keeps).symm⟩)

theorem settle?_cons {kept rest left : List (Step α)} {s : Step α} :
    settle? kept (s :: rest) = some left ↔
      ∃ after, keep? kept s = some after ∧ settle? after rest = some left :=
  Option.bind_eq_some_iff

section Settle

variable {kept steps left : List (Step α)}

theorem descends_of_settle? (settles : settle? kept steps = some left) (descends : Descends kept) :
    Descends left := by
  induction steps generalizing kept with
  | nil =>
    obtain rfl := Option.some.inj settles
    exact fun s member => descends s (List.mem_reverse.mp member)
  | cons s rest ih =>
    obtain ⟨after, keeps, settles'⟩ := settle?_cons.mp settles
    refine ih settles' ?_
    rcases keep?_cases keeps with ⟨_, rfl⟩ | ⟨_, top, _, rfl⟩ | ⟨down, rfl⟩
    · exact descends
    · exact fun s member => descends s (List.mem_cons_of_mem _ member)
    · exact List.forall_mem_cons.mpr ⟨down, descends⟩

-- Nothing sinks: there is a level for every named step that is kept.
theorem underflow_of_settle? (settles : settle? kept steps = some left) {index : Nat} {depth : Int}
    (above : (kept.countP isNamed : Int) ≤ depth) : underflowFrom index depth steps = none := by
  induction steps generalizing kept index depth with
  | nil => rfl
  | cons s rest ih =>
    obtain ⟨after, keeps, settles'⟩ := settle?_cons.mp settles
    have level : (after.countP isNamed : Int) ≤ depth + s.gain := by
      rcases keep?_cases keeps with ⟨rfl, rfl⟩ | ⟨rfl, top, named, rfl⟩ | ⟨named | rfl, rfl⟩
      · simpa [gain] using above
      · rw [List.countP_cons_of_pos named] at above
        simp only [gain]
        omega
      · rw [List.countP_cons_of_pos named, gain_of_named named]
        omega
      · simpa [gain, isNamed] using above
    have floats : ¬depth + s.gain < 0 := by omega
    simp only [underflowFrom, floats, if_false]
    exact ih settles' level

theorem aligns_of_settle? (settles : settle? kept steps = some left) :
    Aligns accepts names (kept.reverse ++ steps) 0 0 ↔ Aligns accepts names left 0 0 := by
  induction steps generalizing kept with
  | nil =>
    obtain rfl := Option.some.inj settles
    rw [List.append_nil]
  | cons s rest ih =>
    obtain ⟨after, keeps, settles'⟩ := settle?_cons.mp settles
    rw [← ih settles']
    rcases keep?_cases keeps with ⟨rfl, rfl⟩ | ⟨rfl, top, named, rfl⟩ | ⟨_, rfl⟩
    · exact aligns_append_congr ((idle_sameDir accepts names).aligns rest) _ 0 0
    · rw [List.reverse_cons, List.append_assoc]
      exact aligns_append_congr ((idle_undone accepts names named).aligns rest) _ 0 0
    · rw [List.reverse_cons, List.append_assoc, List.singleton_append]

end Settle

/-- Where every step to the parent undoes a named one, a path is never an error, and it matches if
its names can be cut into runs for the steps that are left. -/
theorem judge_ok_iff_cuts (accepts : α → ν → Bool) (names : List ν) {steps left : List (Step α)}
    (settles : settle? [] steps = some left) :
    ∃ found, judge accepts names steps = .ok found ∧ (found = true ↔ Cuts accepts left names) := by
  have cuts : Aligns accepts names steps 0 0 ↔ Cuts accepts left names := by
    have descends : Descends left := descends_of_settle? settles (by simp [Descends])
    exact (aligns_of_settle? settles).trans (aligns_iff_cuts descends (Nat.zero_le _))
  by_cases aligns : Aligns accepts names steps 0 0
  · exact ⟨true, judge_of_aligns aligns, by simpa using cuts.mp aligns⟩
  · have floats : underflowFrom 0 0 steps = none := underflow_of_settle? settles (by simp)
    refine ⟨false, ?_, by simpa using mt cuts.mpr aligns⟩
    rw [judge_of_not_aligns aligns, floats]
    rfl

theorem judge_ok_iff_cuts_detour :
    settle? [] [.descendantOf, .literal "a", .literal "b", .parentDir, .sameDir, .literal "c"] =
        some [.descendantOf, .literal "a", .literal "c"] ∧
      ∃ found, judge (fun p name => p == name) ["x", "a", "c"]
          [.descendantOf, .literal "a", .literal "b", .parentDir, .sameDir, .literal "c"] =
          .ok found ∧
        (found = true ↔ Cuts (fun p name => p == name)
          [.descendantOf, .literal "a", .literal "c"] ["x", "a", "c"]) :=
  ⟨rfl, judge_ok_iff_cuts _ _ rfl⟩

end PathQuery.Step
