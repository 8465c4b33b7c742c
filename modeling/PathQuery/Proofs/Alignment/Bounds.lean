import PathQuery.Proofs.Alignment.Underflow

/-!
The bounds of the search. Here each call is checked, and so is each operation that has no result
outside its bounds. Nothing is known about what follows a fault, yet the search comes out the same
whatever that is: there is no fault.
-/

set_option autoImplicit false

namespace PathQuery

variable {α ν : Type}

/-- A place that lies between the ends of the steps and of the names, and where no more levels wait
than the steps ahead can undo. -/
structure Place.Inside (steps : List (Step α)) (names : List ν) (p : Place) : Prop where
  step_le : p.step ≤ steps.length
  seg_le : p.seg ≤ names.length
  detour_le : p.detour ≤ Step.parents (steps.drop p.step)

instance (steps : List (Step α)) (names : List ν) (p : Place) : Decidable (p.Inside steps names) :=
  decidable_of_iff (p.step ≤ steps.length ∧ p.seg ≤ names.length ∧
      p.detour ≤ Step.parents (steps.drop p.step))
    ⟨fun ⟨step, seg, detour⟩ => ⟨step, seg, detour⟩, fun ⟨step, seg, detour⟩ => ⟨step, seg, detour⟩⟩

namespace Step

def difference? (a b : Nat) : Option Nat := if b ≤ a then some (a - b) else none

-- One turn of the count from the last step to the first: each step notes what was counted so far.
def countParent (s : Step α) : List Nat × Nat → List Nat × Nat
  | (counts, count) => (count :: counts, if s.isParentDir then count + 1 else count)

def parentsAfter (steps : List (Step α)) : List Nat := (steps.foldr countParent ([], 0)).1

section Checked

variable (fault : Attempt) (accepts : α → ν → Bool) (names : List ν)

-- The search from one step on, where a fault ends it in an unknown way. The names that remain are
-- counted for every step, and a name is only read if there is one left.
def checkedAdvance (step : Nat) (s : Step α) (later : Nat) (next : Nat → Nat → Attempt)
    (seg detour : Nat) : Attempt :=
  (difference? names.length seg).elim fault fun remaining =>
    match s with
    | .sameDir => next seg detour
    | .parentDir =>
        if 0 < detour then next seg (detour - 1)
        else if 0 < seg then next (seg - 1) 0
        else .climb step
    | .childOf =>
        let onPath := if detour = 0 ∧ 0 < remaining then next (seg + 1) 0 else pure false
        onPath.orElse (if detour < later then next seg (detour + 1) else pure false)
    | .literal p =>
        let onPath :=
          if detour = 0 ∧ 0 < remaining then
            (names[seg]?).elim fault fun name =>
              if accepts p name then next (seg + 1) 0 else pure false
          else pure false
        onPath.orElse (if detour < later then next seg (detour + 1) else pure false)
    | .descendantOf =>
        let onPath :=
          if detour = 0 then (upTo 0 remaining).map fun skip => next (seg + skip) 0 else []
        let first := if detour = 0 then 1 else 0
        (Attempt.firstOf onPath).orElse <| (difference? later detour).elim fault fun spare =>
          .firstOf ((upTo first spare).map fun extra => next seg (detour + extra))

-- The search by the numbers of the steps. A call out of bounds is a fault, and so is a step or a
-- count that is not there.
def checkedRun (steps : List (Step α)) (step seg detour : Nat) : Attempt :=
  if _inside : Place.Inside steps names ⟨step, seg, detour⟩ then
    if _ended : step = steps.length then pure (detour = 0 ∧ seg = names.length)
    else match steps[step]?, (parentsAfter steps)[step]? with
      | some s, some later =>
          .remember ⟨step, seg, detour⟩ (checkedAdvance fault accepts names step s later
            (checkedRun steps (step + 1)) seg detour)
      | _, _ => fault
  else fault
termination_by steps.length - step
decreasing_by
  have := _inside.step_le
  dsimp only at this
  omega

end Checked

theorem difference?_of_le {a b : Nat} (within : b ≤ a) : difference? a b = some (a - b) :=
  if_pos within

theorem foldr_countParent (steps : List (Step α)) :
    (steps.foldr countParent ([], 0)).2 = parents steps ∧
      ∀ i, (parentsAfter steps)[i]? = (steps[i]?).map fun _ => parents (steps.drop (i + 1)) := by
  induction steps with
  | nil => exact ⟨rfl, fun i => rfl⟩
  | cons s rest ih =>
    obtain ⟨count, counts⟩ := ih
    refine ⟨?_, fun i => ?_⟩
    · rw [List.foldr_cons, countParent, count, parents_cons]
      cases s <;> rfl
    · rw [parentsAfter, List.foldr_cons, countParent, count]
      cases i with
      | zero => simp
      | succ i => exact counts i

variable {fault : Attempt} {accepts : α → ν → Bool} {names : List ν} {steps : List (Step α)}
  {s : Step α} {step seg detour : Nat} {next next' : Nat → Nat → Attempt}

theorem checkedAdvance_eq (inside : Place.Inside steps names ⟨step, seg, detour⟩)
    (here : steps[step]? = some s) :
    checkedAdvance fault accepts names step s (parents (steps.drop (step + 1))) next seg detour =
      advance accepts names step s (parents (steps.drop (step + 1))) next seg detour := by
  have remaining : difference? names.length seg = some (names.length - seg) :=
    difference?_of_le inside.seg_le
  have left : 0 < names.length - seg ↔ seg < names.length := Nat.sub_pos_iff_lt
  simp only [checkedAdvance, remaining, Option.elim_some, left]
  cases s with
  | sameDir | parentDir => rfl
  | childOf => simp [advance, takes_childOf]
  | literal p =>
    simp only [advance, takes_literal]
    congr 1
    by_cases named : seg < names.length
    · by_cases ground : detour = 0 <;> simp [named, ground]
    · simp [named]
  | descendantOf =>
    have waiting : detour ≤ parents (steps.drop (step + 1)) := by
      simpa [drop_of_getElem? here, parents_cons] using inside.detour_le
    simp [advance, difference?_of_le waiting]

theorem advance_congr (inside : Place.Inside steps names ⟨step, seg, detour⟩)
    (here : steps[step]? = some s)
    (same : ∀ seg' detour', Place.Inside steps names ⟨step + 1, seg', detour'⟩ →
      next seg' detour' = next' seg' detour') :
    advance accepts names step s (parents (steps.drop (step + 1))) next seg detour =
      advance accepts names step s (parents (steps.drop (step + 1))) next' seg detour := by
  have shorter : step + 1 ≤ steps.length := (List.getElem?_eq_some_iff.mp here).1
  have within : seg ≤ names.length := inside.seg_le
  have undone : detour ≤ parents (s :: steps.drop (step + 1)) := by
    simpa [drop_of_getElem? here] using inside.detour_le
  rw [parents_cons] at undone
  generalize later_eq : parents (steps.drop (step + 1)) = later at undone ⊢
  have calls {seg' detour' : Nat} (seg_le : seg' ≤ names.length) (detour_le : detour' ≤ later) :
      next seg' detour' = next' seg' detour' :=
    same seg' detour' ⟨shorter, seg_le, later_eq ▸ detour_le⟩
  have named {can : Prop} [Decidable can] (takes : can → seg < names.length) :
      (if can then next (seg + 1) 0 else pure false).orElse
          (if detour < later then next seg (detour + 1) else pure false) =
        (if can then next' (seg + 1) 0 else pure false).orElse
          (if detour < later then next' seg (detour + 1) else pure false) := by
    congr 1
    · split
      next yes => exact calls (takes yes) (Nat.zero_le later)
      next => rfl
    · split
      next free => exact calls within free
      next => rfl
  cases s with
  | sameDir => exact calls within undone
  | parentDir =>
    simp only [advance]
    split
    next waits => exact calls within (by simp only at undone; omega)
    next =>
      split
      next taken => exact calls (by omega) (Nat.zero_le later)
      next => rfl
  | childOf =>
    refine named fun can => ?_
    simpa [takes_childOf] using can.2
  | literal p =>
    refine named fun can => ?_
    obtain ⟨name, found, _⟩ : ∃ name, names[seg]? = some name ∧ accepts p name = true := by
      simpa [takes_literal, Option.any_eq_true] using can.2
    exact (List.getElem?_eq_some_iff.mp found).1
  | descendantOf =>
    simp only [advance]
    congr 2
    · split
      next =>
        refine List.map_congr_left fun skip member => ?_
        have most := (mem_upTo.mp member).2
        exact calls (by omega) (Nat.zero_le later)
      next => rfl
    · refine List.map_congr_left fun extra member => ?_
      have most := (mem_upTo.mp member).2
      simp only at undone
      exact calls within (by omega)

theorem checkedRun_eq {rest : List (Step α)} (ahead : steps.drop step = rest)
    (inside : Place.Inside steps names ⟨step, seg, detour⟩) :
    checkedRun fault accepts names steps step seg detour =
      run accepts names step rest seg detour := by
  induction rest generalizing step seg detour with
  | nil =>
    have ended : step = steps.length :=
      Nat.le_antisymm inside.step_le (List.drop_eq_nil_iff.mp ahead)
    rw [checkedRun, dif_pos inside, dif_pos ended, run]
  | cons s rest ih =>
    obtain ⟨here, behind⟩ := getElem?_of_drop ahead
    have more : step < steps.length := (List.getElem?_eq_some_iff.mp here).1
    have later : (parentsAfter steps)[step]? = some (parents rest) := by
      rw [(foldr_countParent steps).2, here, behind]
      rfl
    rw [checkedRun, dif_pos inside, dif_neg (Nat.ne_of_lt more), run]
    simp only [here, later]
    subst behind
    rw [checkedAdvance_eq inside here,
      advance_congr inside here fun seg' detour' inside' => ih rfl inside']

def FailsInside (steps : List (Step α)) (names : List ν) (t : Trail) : Prop :=
  ∀ p ∈ t.failed, p.Inside steps names

theorem run_keeps_inside {rest : List (Step α)} (ahead : steps.drop step = rest)
    (inside : Place.Inside steps names ⟨step, seg, detour⟩) :
    Attempt.Keeps (FailsInside steps names) (run accepts names step rest seg detour) := by
  induction rest generalizing step seg detour with
  | nil => exact Attempt.keeps_pure _
  | cons s rest ih =>
    obtain ⟨here, rfl⟩ := getElem?_of_drop ahead
    refine Attempt.Keeps.remember _ ?_ fun t holds p member => ?_
    · -- The calls out of bounds, which are not made, are replaced by ones that keep everything.
      let next seg' detour' :=
        if Place.Inside steps names ⟨step + 1, seg', detour'⟩ then
          run accepts names (step + 1) (steps.drop (step + 1)) seg' detour'
        else pure false
      have guarded seg' detour' (inside' : Place.Inside steps names ⟨step + 1, seg', detour'⟩) :
          run accepts names (step + 1) (steps.drop (step + 1)) seg' detour' = next seg' detour' :=
        (if_pos inside').symm
      rw [advance_congr inside here guarded]
      refine advance_keeps s step _ seg detour (fun _ t holds => holds) fun seg' detour' _ => ?_
      simp only [next]
      split
      next inside' => exact ih rfl inside'
      next => exact Attempt.keeps_pure false
    · rcases (Trail.mem_fail t _ p).mp member with rfl | earlier
      · exact inside
      · exact holds p earlier

/-- The search makes no call out of bounds, takes no number from a smaller one and reads no name that
is not there, whatever it has met before, and the places where it has failed are all within bounds. -/
theorem search_stays_inside (accepts : α → ν → Bool) (names : List ν) (steps : List (Step α)) :
    (∀ fault, checkedRun fault accepts names steps 0 0 0 = run accepts names 0 steps 0 0) ∧
      ∀ p ∈ (search accepts names steps).2.failed, p.Inside steps names := by
  have inside : Place.Inside steps names ⟨0, 0, 0⟩ :=
    ⟨Nat.zero_le _, Nat.zero_le _, Nat.zero_le _⟩
  have clean : FailsInside steps names .start := fun p member =>
    absurd member (Trail.not_mem_start p)
  exact ⟨fun fault => checkedRun_eq List.drop_zero inside,
    run_keeps_inside List.drop_zero inside .start clean⟩

end Step

end PathQuery
