import PathQuery.Query.Error
import PathQuery.Query.Step
import Std.Data.TreeSet.Lemmas

/-!
How a list of names is judged by steps. A step to the parent undoes an earlier step. Either that
step had taken a name, which is then given back, or it was a detour: a level that never stood for a
name of the path. The search for an alignment goes through the steps in order, tries one choice
after the other and remembers where it has failed.
-/

set_option autoImplicit false

namespace PathQuery

/-- A point that a search can come to: the next step, how many names are taken and how many levels
wait to be undone. -/
structure Place where
  step : Nat
  seg : Nat
  detour : Nat
deriving DecidableEq, Repr

def Place.order : Place → Place → Ordering :=
  compareLex (compareOn Place.step) (compareLex (compareOn Place.seg) (compareOn Place.detour))

instance : Std.TransCmp Place.order :=
  inferInstanceAs (Std.TransCmp
    (compareLex (compareOn Place.step) (compareLex (compareOn Place.seg) (compareOn Place.detour))))

theorem Place.order_eq_eq (p q : Place) : Place.order p q = .eq ↔ p = q := by
  obtain ⟨step, seg, detour⟩ := p
  obtain ⟨step', seg', detour'⟩ := q
  simp [Place.order, compareLex_eq_eq, compareOn]

structure Trail where
  failed : Std.TreeSet Place Place.order
  -- The first step to the parent that had nothing to climb out of.
  underflow : Option Nat

namespace Trail

def start : Trail := ⟨∅, none⟩

@[simp] theorem not_mem_start (p : Place) : p ∉ start.failed := Std.TreeSet.not_mem_emptyc

def fail (t : Trail) (p : Place) : Trail := { t with failed := t.failed.insert p }

@[simp] theorem mem_fail (t : Trail) (p q : Place) :
    q ∈ (t.fail p).failed ↔ p = q ∨ q ∈ t.failed := by
  simp [fail, Place.order_eq_eq]

@[simp] theorem underflow_fail (t : Trail) (p : Place) : (t.fail p).underflow = t.underflow := rfl

def climb (t : Trail) (step : Nat) : Trail := { t with underflow := t.underflow.or (some step) }

@[simp] theorem failed_climb (t : Trail) (step : Nat) : (t.climb step).failed = t.failed := rfl

@[simp] theorem underflow_climb (t : Trail) (step : Nat) :
    (t.climb step).underflow = t.underflow.or (some step) := rfl

end Trail

abbrev Attempt := StateM Trail Bool

namespace Attempt

def orElse (a b : Attempt) : Attempt := do
  if ← a then pure true else b

theorem run_orElse (a b : Attempt) (t : Trail) :
    (a.orElse b).run t = if (a.run t).1 then (true, (a.run t).2) else b.run (a.run t).2 := by
  change (if (a.run t).1 then pure true else b : Attempt).run (a.run t).2 = _
  cases (a.run t).1 <;> rfl

def firstOf (attempts : List Attempt) : Attempt := attempts.foldr orElse (pure false)

def climb (step : Nat) : Attempt := do
  modify (·.climb step)
  pure false

theorem run_climb (step : Nat) (t : Trail) : (climb step).run t = (false, t.climb step) := rfl

def remember (p : Place) (a : Attempt) : Attempt := do
  if (← get).failed.contains p then pure false
  else if ← a then pure true
  else
    modify (·.fail p)
    pure false

theorem run_remember (p : Place) (a : Attempt) (t : Trail) :
    (remember p a).run t =
      if p ∈ t.failed then (false, t)
      else if (a.run t).1 then (true, (a.run t).2) else (false, (a.run t).2.fail p) := by
  change (if t.failed.contains p then pure false else _ : Attempt).run t = _
  simp only [Std.TreeSet.contains_iff_mem]
  split
  · rfl
  · change (if (a.run t).1 then pure true else _ : Attempt).run (a.run t).2 = _
    cases (a.run t).1 <;> rfl

end Attempt

namespace Step

variable {α ν : Type}

def upTo (first last : Nat) : List Nat := List.range' first (last + 1 - first)

-- The search from one step on, when `seg` names are taken and `detour` levels wait to be undone.
-- `next` is the search from the step after it, and `later` counts the steps to the parent from
-- there on: a level that none of these can undo is not worth a try.
def advance (accepts : α → ν → Bool) (names : List ν) (step : Nat) (s : Step α) (later : Nat)
    (next : Nat → Nat → Attempt) (seg detour : Nat) : Attempt :=
  match s with
  | .sameDir => next seg detour
  | .parentDir =>
      if 0 < detour then next seg (detour - 1)
      else if 0 < seg then next (seg - 1) 0
      else .climb step
  | .childOf | .literal _ =>
      let onPath :=
        if detour = 0 ∧ s.takes accepts names seg then next (seg + 1) 0 else pure false
      let aside := if detour < later then next seg (detour + 1) else pure false
      onPath.orElse aside
  | .descendantOf =>
      let onPath :=
        if detour = 0 then (upTo 0 (names.length - seg)).map fun skip => next (seg + skip) 0
        else []
      let first := if detour = 0 then 1 else 0
      let aside := (upTo first (later - detour)).map fun extra => next seg (detour + extra)
      (Attempt.firstOf onPath).orElse (.firstOf aside)

def run (accepts : α → ν → Bool) (names : List ν) :
    (step : Nat) → List (Step α) → (seg detour : Nat) → Attempt
  | _, [], seg, detour => pure (detour = 0 ∧ seg = names.length)
  | step, s :: rest, seg, detour =>
      .remember ⟨step, seg, detour⟩
        (s.advance accepts names step (parents rest) (run accepts names (step + 1) rest) seg detour)

def search (accepts : α → ν → Bool) (names : List ν) (steps : List (Step α)) : Bool × Trail :=
  (run accepts names 0 steps 0 0).run .start

-- The verdict where no alignment comes to an end: a step that climbs above the start of the path is
-- an error.
def refusal : (underflow : Option Nat) → Except QueryError Bool
  | some step => .error (.emptyPathUnderflow step)
  | none => .ok false

def judge (accepts : α → ν → Bool) (names : List ν) (steps : List (Step α)) :
    Except QueryError Bool :=
  match search accepts names steps with
  | (true, _) => .ok true
  | (false, trail) => refusal trail.underflow

end Step

end PathQuery
