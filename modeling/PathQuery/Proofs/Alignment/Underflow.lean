import PathQuery.Proofs.Alignment.Plain

set_option autoImplicit false

namespace PathQuery.Step

variable {α ν : Type}

def gain : Step α → Int
  | .sameDir | .descendantOf => 0
  | .parentDir => -1
  | .childOf | .literal _ => 1

def netDepth : List (Step α) → Int
  | [] => 0
  | s :: rest => s.gain + netDepth rest

/-- The first step to the parent at which the depth gets negative. -/
def firstUnderflow? (steps : List (Step α)) : Option Nat :=
  (List.range steps.length).find? fun i =>
    steps[i]?.any isParentDir && decide (netDepth (steps.take (i + 1)) < 0)

-- The same step, found by going through the steps with the depth so far.
def underflowFrom : (index : Nat) → (depth : Int) → List (Step α) → Option Nat
  | _, _, [] => none
  | index, depth, s :: rest =>
      if depth + s.gain < 0 then some index else underflowFrom (index + 1) (depth + s.gain) rest

theorem isParentDir_of_gain {s : Step α} {depth : Int} (start : 0 ≤ depth)
    (sinks : depth + s.gain < 0) : s = .parentDir := by
  cases s with
  | parentDir => rfl
  | sameDir | childOf | descendantOf | literal _ =>
    simp only [gain] at sinks
    omega

theorem underflowFrom_eq (index : Nat) (depth : Int) (start : 0 ≤ depth) (steps : List (Step α)) :
    underflowFrom index depth steps =
      ((List.range steps.length).find? fun i =>
        steps[i]?.any isParentDir && decide (depth + netDepth (steps.take (i + 1)) < 0)).map
          (index + ·) := by
  induction steps generalizing index depth with
  | nil => rfl
  | cons s rest ih =>
    rw [List.length_cons, List.range_succ_eq_map, List.find?_cons, underflowFrom]
    by_cases sinks : depth + s.gain < 0
    · obtain rfl := isParentDir_of_gain start sinks
      simp [isParentDir, netDepth, sinks]
    · have shift (i : Nat) : depth + netDepth ((s :: rest).take (i + 1)) =
          depth + s.gain + netDepth (rest.take i) := by
        simp [netDepth, Int.add_assoc]
      simp only [sinks, if_false, ih (index + 1) (depth + s.gain) (by omega), shift]
      simp [netDepth, sinks, List.find?_map, Function.comp_def, Nat.add_assoc, Nat.add_comm 1]

theorem firstUnderflow?_eq (steps : List (Step α)) :
    firstUnderflow? steps = underflowFrom 0 0 steps := by
  rw [underflowFrom_eq 0 0 (Int.le_refl 0)]
  simp [firstUnderflow?]

-- A step that is to climb too high needs more steps to the parent than there are levels.
theorem depth_lt_parents {index : Nat} {depth : Int} {steps : List (Step α)} {i : Nat}
    (sinks : underflowFrom index depth steps = some i) : depth < parents steps := by
  induction steps generalizing index depth with
  | nil => simp [underflowFrom] at sinks
  | cons s rest ih =>
    rw [parents_cons]
    simp only [underflowFrom] at sinks
    split at sinks
    next now => cases s <;> simp only [gain] at now ⊢ <;> omega
    next =>
      have later := ih sinks
      cases s <;> simp only [gain] at later ⊢ <;> omega

section Search

variable {accepts : α → ν → Bool} {names : List ν} {inv : Trail → Prop}

-- However a step is taken, it does not lead below its net depth.
theorem advance_keeps (s : Step α) (index later seg detour : Nat) {next : Nat → Nat → Attempt}
    (climb : (seg + detour : Int) + s.gain < 0 → ∀ t, inv t → inv (t.climb index))
    (after : ∀ seg' detour' : Nat, (seg + detour : Int) + s.gain ≤ seg' + detour' →
      Attempt.Keeps inv (next seg' detour')) :
    Attempt.Keeps inv (advance accepts names index s later next seg detour) := by
  have named (first : Prop) [Decidable first] (ground : first → detour = 0)
      (level : s.gain = 1) :
      Attempt.Keeps inv ((if first then next (seg + 1) 0 else pure false).orElse
        (if detour < later then next seg (detour + 1) else pure false)) := by
    apply Attempt.Keeps.orElse
    · split
      next can => exact after _ _ (by have := ground can; omega)
      · exact Attempt.keeps_pure false
    · split
      · exact after _ _ (by omega)
      · exact Attempt.keeps_pure false
  cases s with
  | sameDir => exact after seg detour (by simp [gain])
  | parentDir =>
    simp only [advance]
    split
    · exact after _ _ (by simp only [gain]; omega)
    · split
      · exact after _ _ (by simp only [gain]; omega)
      · intro t holds
        exact climb (by simp only [gain]; omega) t holds
  | childOf => exact named _ (fun can => can.1) rfl
  | literal p => exact named _ (fun can => can.1) rfl
  | descendantOf =>
    apply Attempt.Keeps.orElse
    · apply Attempt.keeps_firstOf
      split
      next ground =>
        intro a member
        obtain ⟨skip, _, rfl⟩ := List.mem_map.mp member
        exact after _ _ (by simp only [gain]; omega)
      · simp
    · apply Attempt.keeps_firstOf
      intro a member
      obtain ⟨extra, _, rfl⟩ := List.mem_map.mp member
      exact after _ _ (by simp only [gain]; omega)

theorem run_keeps_underflow (step index seg detour : Nat) (steps : List (Step α)) :
    Attempt.Keeps (fun t => t.underflow = some step) (run accepts names index steps seg detour) := by
  induction steps generalizing index seg detour with
  | nil => exact Attempt.keeps_pure _
  | cons s rest ih =>
    refine Attempt.Keeps.remember _ ?_ fun t known => known
    exact advance_keeps s index _ seg detour (fun _ t known => by simp [known])
      fun seg' detour' _ => ih (index + 1) seg' detour'

theorem run_keeps_none {index : Nat} {depth : Int} {steps : List (Step α)}
    (floats : underflowFrom index depth steps = none) {seg detour : Nat}
    (above : depth ≤ seg + detour) :
    Attempt.Keeps (fun t => t.underflow = none) (run accepts names index steps seg detour) := by
  induction steps generalizing index depth seg detour with
  | nil => exact Attempt.keeps_pure _
  | cons s rest ih =>
    simp only [underflowFrom] at floats
    split at floats
    · simp at floats
    next stays =>
      refine Attempt.Keeps.remember _ ?_ fun t none => none
      exact advance_keeps s index _ seg detour (fun sinks => by omega)
        fun seg' detour' height => ih floats (by omega)

/-- Until an underflow is known, no place has failed from which the search would come to it. -/
def Fresh (steps : List (Step α)) (first : Nat) (t : Trail) : Prop :=
  t.underflow = some first ∨
    t.underflow = none ∧ ∀ p ∈ t.failed,
      underflowFrom p.step (p.seg + p.detour) (steps.drop p.step) ≠ some first

def Meets (inv : Trail → Prop) (first : Nat) (a : Attempt) : Prop :=
  ∀ t, inv t → (a.run t).1 = true ∨ (a.run t).2.underflow = some first

theorem Meets.orElse {first : Nat} {a b : Attempt} (meets : Meets inv first a)
    (keeps : Attempt.Keeps (fun t => t.underflow = some first) b) :
    Meets inv first (a.orElse b) := by
  intro t holds
  rw [Attempt.run_orElse]
  rcases meets t holds with found | known
  · simp [found]
  · split
    · exact .inl rfl
    · exact .inr (keeps _ known)

theorem upTo_zero (last : Nat) : upTo 0 last = 0 :: upTo 1 last := by
  simp [upTo, List.range'_succ]

-- The first choice that is tried at a step follows the net depth.
theorem advance_meets {first index later seg detour : Nat} (s : Step α)
    {next : Nat → Nat → Attempt} (stays : 0 ≤ (seg + detour : Int) + s.gain)
    (room : (seg + detour : Int) + s.gain < later)
    (after : ∀ seg' detour' : Nat, (seg' + detour' : Int) = seg + detour + s.gain →
      Meets inv first (next seg' detour'))
    (keeps : ∀ seg' detour' : Nat,
      Attempt.Keeps (fun t => t.underflow = some first) (next seg' detour')) :
    Meets inv first (advance accepts names index s later next seg detour) := by
  have named (can : Prop) [Decidable can] (ground : can → detour = 0) (level : s.gain = 1) :
      Meets inv first ((if can then next (seg + 1) 0 else pure false).orElse
        (if detour < later then next seg (detour + 1) else pure false)) := by
    have free : detour < later := by omega
    rw [if_pos free]
    split
    next yes =>
      exact Meets.orElse (after _ _ (by have := ground yes; omega)) (keeps _ _)
    next => exact after _ _ (by omega)
  cases s with
  | sameDir => exact after seg detour (by simp [gain])
  | parentDir =>
    simp only [gain] at stays
    simp only [advance]
    split
    · exact after _ _ (by simp only [gain]; omega)
    · split
      · exact after _ _ (by simp only [gain]; omega)
      · omega
  | childOf => exact named _ (fun can => can.1) rfl
  | literal p => exact named _ (fun can => can.1) rfl
  | descendantOf =>
    have others (attempts : List Attempt) (each : ∀ a ∈ attempts, ∃ seg' detour', a = next seg' detour') :
        Attempt.Keeps (fun t => t.underflow = some first) (Attempt.firstOf attempts) := by
      apply Attempt.keeps_firstOf
      intro a member
      obtain ⟨seg', detour', rfl⟩ := each a member
      exact keeps seg' detour'
    have extras (least : Nat) : Attempt.Keeps (fun t => t.underflow = some first)
        (.firstOf ((upTo least (later - detour)).map fun extra => next seg (detour + extra))) := by
      apply others
      intro a member
      obtain ⟨extra, _, rfl⟩ := List.mem_map.mp member
      exact ⟨_, _, rfl⟩
    simp only [advance]
    split
    next ground =>
      apply Meets.orElse _ (extras 1)
      rw [upTo_zero, List.map_cons]
      apply Meets.orElse (after _ _ (by simp only [gain]; omega))
      apply others
      intro a member
      obtain ⟨skip, _, rfl⟩ := List.mem_map.mp member
      exact ⟨_, _, rfl⟩
    next above =>
      rw [upTo_zero, List.map_cons]
      apply Meets.orElse (after _ _ (by simp only [gain]; omega))
      exact extras 1

theorem run_meets_underflow (steps : List (Step α)) (first : Nat) {rest : List (Step α)}
    {index seg detour : Nat} (ahead : steps.drop index = rest)
    (sinks : underflowFrom index (seg + detour) rest = some first) :
    Meets (Fresh steps first) first (run accepts names index rest seg detour) := by
  induction rest generalizing index seg detour with
  | nil => simp [underflowFrom] at sinks
  | cons s rest ih =>
    have ahead' : steps.drop (index + 1) = rest := by
      rw [← List.tail_drop, ahead, List.tail_cons]
    have tried : Meets (Fresh steps first) first (advance accepts names index s (parents rest)
        (run accepts names (index + 1) rest) seg detour) := by
      simp only [underflowFrom] at sinks
      split at sinks
      next now =>
        obtain rfl := isParentDir_of_gain (by omega) now
        simp only [gain] at now
        have lowest : seg = 0 ∧ detour = 0 := by omega
        intro t fresh
        obtain rfl : index = first := by simpa using sinks
        rcases fresh with known | ⟨none, _⟩
        · simp [advance, lowest, Attempt.run_climb, known]
        · simp [advance, lowest, Attempt.run_climb, none]
      next stays =>
        refine advance_meets s (by omega) (depth_lt_parents sinks) ?_ fun seg' detour' =>
          run_keeps_underflow first (index + 1) seg' detour' rest
        intro seg' detour' level
        exact ih ahead' (level ▸ sinks)
    intro t fresh
    simp only [run, Attempt.run_remember]
    split
    next failed =>
      rcases fresh with known | ⟨_, none⟩
      · exact .inr known
      · exact absurd (ahead ▸ sinks) (none _ failed)
    next =>
      rcases tried t fresh with found | known
      · simp [found]
      · split <;> simp [known]

theorem search_underflow (accepts : α → ν → Bool) (names : List ν) (steps : List (Step α))
    (missed : (search accepts names steps).1 = false) :
    (search accepts names steps).2.underflow = firstUnderflow? steps := by
  rw [firstUnderflow?_eq]
  cases sinks : underflowFrom 0 0 steps with
  | none =>
    have keeps : Attempt.Keeps _ (run accepts names 0 steps 0 0) := run_keeps_none sinks (by simp)
    exact keeps .start rfl
  | some first =>
    have fresh : Fresh steps first .start :=
      .inr ⟨rfl, fun p member => absurd member (Trail.not_mem_start p)⟩
    have meets : Meets _ first (run accepts names 0 steps 0 0) :=
      run_meets_underflow steps first List.drop_zero sinks
    rcases meets .start fresh with found | known
    · exact absurd (found.symm.trans missed) (by simp)
    · exact known

theorem judge_of_aligns {steps : List (Step α)} (aligns : Aligns accepts names steps 0 0) :
    judge accepts names steps = .ok true :=
  (judge_eq_ok_true_iff accepts names steps).mpr ((search_iff_aligns accepts names steps).mpr aligns)

theorem judge_of_not_aligns {steps : List (Step α)} (missed : ¬Aligns accepts names steps 0 0) :
    judge accepts names steps = refusal (underflowFrom 0 0 steps) := by
  have lost : (search accepts names steps).1 = false :=
    Bool.eq_false_iff.mpr (mt (search_iff_aligns accepts names steps).mp missed)
  have underflow := search_underflow accepts names steps lost
  rcases result : search accepts names steps with ⟨found, trail⟩
  rw [result] at lost underflow
  subst lost
  simp only [judge, result]
  rw [underflow, firstUnderflow?_eq]

/-- Whether a path that does not match is an error, and which step it reports, hangs on the steps
alone: neither the names of the path nor the patterns have a part in it. -/
theorem judge_eq_refusal (accepts : α → ν → Bool) (names : List ν) (steps : List (Step α)) :
    judge accepts names steps = .ok true ∨
      judge accepts names steps = refusal (firstUnderflow? steps) := by
  rcases result : search accepts names steps with ⟨found, trail⟩
  cases found with
  | true => exact .inl (by simp [judge, result])
  | false =>
    have underflow : trail.underflow = firstUnderflow? steps := by
      simpa [result] using search_underflow accepts names steps (by rw [result])
    exact .inr (by simp only [judge, result, underflow])

example : judge (fun p name => p == name) ["b"] [.literal "a", .parentDir, .parentDir, .literal "b"] =
    .error (.emptyPathUnderflow 2) := rfl

end Search

end PathQuery.Step
