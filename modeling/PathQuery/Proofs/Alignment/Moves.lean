import Mathlib.Logic.Relation
import PathQuery.Proofs.Alignment.Plain

set_option autoImplicit false

namespace PathQuery.Step

variable {α ν : Type}

/-- What one step can do at a place. Nothing bounds the levels that wait to be undone. -/
inductive Move (accepts : α → ν → Bool) (names : List ν) (steps : List (Step α)) :
    Place → Place → Prop where
  | stay {step seg detour : Nat} (here : steps[step]? = some .sameDir) :
      Move accepts names steps ⟨step, seg, detour⟩ ⟨step + 1, seg, detour⟩
  | undo {step seg detour : Nat} (here : steps[step]? = some .parentDir) :
      Move accepts names steps ⟨step, seg, detour + 1⟩ ⟨step + 1, seg, detour⟩
  | giveBack {step seg : Nat} (here : steps[step]? = some .parentDir) :
      Move accepts names steps ⟨step, seg + 1, 0⟩ ⟨step + 1, seg, 0⟩
  | takeAny {step seg : Nat} (here : steps[step]? = some .childOf) (inside : seg < names.length) :
      Move accepts names steps ⟨step, seg, 0⟩ ⟨step + 1, seg + 1, 0⟩
  | take {step seg : Nat} {p : α} {name : ν} (here : steps[step]? = some (.literal p))
      (found : names[seg]? = some name) (accepted : accepts p name = true) :
      Move accepts names steps ⟨step, seg, 0⟩ ⟨step + 1, seg + 1, 0⟩
  | aside {step seg detour : Nat} {s : Step α} (here : steps[step]? = some s)
      (named : s.isNamed = true) :
      Move accepts names steps ⟨step, seg, detour⟩ ⟨step + 1, seg, detour + 1⟩
  | skip {step seg : Nat} (count : Nat) (here : steps[step]? = some .descendantOf)
      (inside : seg + count ≤ names.length) :
      Move accepts names steps ⟨step, seg, 0⟩ ⟨step + 1, seg + count, 0⟩
  | push {step seg detour : Nat} (count : Nat) (here : steps[step]? = some .descendantOf) :
      Move accepts names steps ⟨step, seg, detour⟩ ⟨step + 1, seg, detour + count⟩

variable {accepts : α → ν → Bool} {names : List ν} {steps : List (Step α)}

-- A move can be put in front of an alignment.
theorem Move.aligns {p q : Place} (move : Move accepts names steps p q)
    (aligns : Aligns accepts names (steps.drop q.step) q.seg q.detour) :
    Aligns accepts names (steps.drop p.step) p.seg p.detour := by
  cases move with
  | stay here =>
    rw [drop_of_getElem? here]
    exact aligns
  | undo here =>
    rw [drop_of_getElem? here]
    exact .inl ⟨Nat.succ_pos _, aligns⟩
  | giveBack here =>
    rw [drop_of_getElem? here]
    exact .inr ⟨rfl, Nat.succ_pos _, aligns⟩
  | takeAny here inside =>
    rw [drop_of_getElem? here]
    exact .inl ⟨rfl, by simp [takes_childOf, inside], aligns⟩
  | take here found accepted =>
    rw [drop_of_getElem? here]
    exact .inl ⟨rfl, by simp [takes_literal, found, accepted], aligns⟩
  | aside here named =>
    rw [drop_of_getElem? here]
    exact (aligns_named named _ _ _).mpr (.inr aligns)
  | skip count here inside =>
    rw [drop_of_getElem? here]
    exact .inl ⟨rfl, count, Nat.le_sub_of_add_le' inside, aligns⟩
  | push count here =>
    rw [drop_of_getElem? here]
    exact .inr ⟨count, aligns⟩

theorem aligns_of_moves {p : Place}
    (moves : Relation.ReflTransGen (Move accepts names steps) p ⟨steps.length, names.length, 0⟩) :
    Aligns accepts names (steps.drop p.step) p.seg p.detour := by
  induction moves using Relation.ReflTransGen.head_induction_on with
  | refl => simp [Aligns]
  | head move _ ih => exact move.aligns ih

-- An alignment begins with a move.
theorem Aligns.move {s : Step α} {rest : List (Step α)} {step seg detour : Nat}
    (aligns : Aligns accepts names (s :: rest) seg detour) (here : steps[step]? = some s) :
    ∃ seg' detour', Move accepts names steps ⟨step, seg, detour⟩ ⟨step + 1, seg', detour'⟩ ∧
      Aligns accepts names rest seg' detour' := by
  cases s with
  | sameDir => exact ⟨seg, detour, .stay here, aligns⟩
  | parentDir =>
    rcases aligns with ⟨above, aligns⟩ | ⟨rfl, taken, aligns⟩
    · obtain ⟨detour, rfl⟩ := Nat.exists_eq_succ_of_ne_zero (Nat.ne_of_gt above)
      exact ⟨seg, detour, .undo here, aligns⟩
    · obtain ⟨seg, rfl⟩ := Nat.exists_eq_succ_of_ne_zero (Nat.ne_of_gt taken)
      exact ⟨seg, 0, .giveBack here, aligns⟩
  | childOf =>
    rcases aligns with ⟨rfl, takes, aligns⟩ | aligns
    · exact ⟨seg + 1, 0, .takeAny here (by simpa [takes_childOf] using takes), aligns⟩
    · exact ⟨seg, detour + 1, .aside here rfl, aligns⟩
  | literal p =>
    rcases aligns with ⟨rfl, takes, aligns⟩ | aligns
    · obtain ⟨name, found, accepted⟩ : ∃ name, names[seg]? = some name ∧ accepts p name = true := by
        simpa [takes_literal, Option.any_eq_true] using takes
      exact ⟨seg + 1, 0, .take here found accepted, aligns⟩
    · exact ⟨seg, detour + 1, .aside here rfl, aligns⟩
  | descendantOf =>
    rcases aligns with ⟨rfl, count, within, aligns⟩ | ⟨count, aligns⟩
    · by_cases inside : seg + count ≤ names.length
      · exact ⟨seg + count, 0, .skip count here inside, aligns⟩
      -- Past the last name nothing can be skipped.
      · obtain rfl : count = 0 := by omega
        exact ⟨seg, 0, .push 0 here, aligns⟩
    · exact ⟨seg, detour + count, .push count here, aligns⟩

theorem Aligns.moves {rest : List (Step α)} {step seg detour : Nat}
    (aligns : Aligns accepts names rest seg detour) (ahead : steps.drop step = rest)
    (inside : step ≤ steps.length) :
    Relation.ReflTransGen (Move accepts names steps) ⟨step, seg, detour⟩
      ⟨steps.length, names.length, 0⟩ := by
  induction rest generalizing step seg detour with
  | nil =>
    obtain ⟨rfl, rfl⟩ := aligns
    have last : step = steps.length := Nat.le_antisymm inside (List.drop_eq_nil_iff.mp ahead)
    rw [last]
  | cons s rest ih =>
    obtain ⟨here, ahead'⟩ := getElem?_of_drop ahead
    obtain ⟨seg', detour', move, aligns'⟩ := aligns.move here
    have inside' : step + 1 ≤ steps.length := (List.getElem?_eq_some_iff.mp here).1
    exact .head move (ih aligns' ahead' inside')

/-- A path matches where some moves lead from the start of the steps and of the path to the end of
both, with no level left to be undone. -/
theorem judge_ok_true_iff_moves (accepts : α → ν → Bool) (names : List ν) (steps : List (Step α)) :
    judge accepts names steps = .ok true ↔
      Relation.ReflTransGen (Move accepts names steps) ⟨0, 0, 0⟩
        ⟨steps.length, names.length, 0⟩ := by
  rw [judge_eq_ok_true_iff, search_iff_aligns]
  constructor
  · intro aligns
    exact aligns.moves List.drop_zero (Nat.zero_le _)
  · intro moves
    exact aligns_of_moves moves

end PathQuery.Step
