import PathQuery.Proofs.Alignment.Underflow

set_option autoImplicit false

namespace PathQuery

def QueryError.insertSteps (start count : Nat) : QueryError → QueryError
  | .emptyPathUnderflow step => .emptyPathUnderflow (if step < start then step else step + count)
  | e => e

namespace Step

variable {α ν : Type}

theorem underflowFrom_append (index : Nat) (depth : Int) (xs ys : List (Step α)) :
    underflowFrom index depth (xs ++ ys) =
      (underflowFrom index depth xs).or
        (underflowFrom (index + xs.length) (depth + netDepth xs) ys) := by
  induction xs generalizing index depth with
  | nil => simp [underflowFrom, netDepth]
  | cons s xs ih =>
    simp only [List.cons_append, underflowFrom]
    split
    · rfl
    · have number : index + 1 + xs.length = index + (s :: xs).length := by
        rw [List.length_cons]
        omega
      have level : depth + s.gain + netDepth xs = depth + netDepth (s :: xs) := Int.add_assoc _ _ _
      rw [ih, number, level]

theorem underflowFrom_add (index count : Nat) (depth : Int) (steps : List (Step α)) :
    underflowFrom (index + count) depth steps = (underflowFrom index depth steps).map (· + count) := by
  induction steps generalizing index depth with
  | nil => rfl
  | cons s rest ih =>
    simp only [underflowFrom]
    split
    · rfl
    · rw [Nat.add_right_comm, ih]

theorem underflowFrom_bounds {index : Nat} {depth : Int} {steps : List (Step α)} {i : Nat}
    (sinks : underflowFrom index depth steps = some i) : index ≤ i ∧ i < index + steps.length := by
  induction steps generalizing index depth with
  | nil => simp [underflowFrom] at sinks
  | cons s rest ih =>
    simp only [underflowFrom] at sinks
    rw [List.length_cons]
    split at sinks
    · obtain rfl : index = i := Option.some.inj sinks
      omega
    · have later := ih sinks
      omega

theorem netDepth_of_underflowFrom {index : Nat} {depth : Int} {steps : List (Step α)}
    (start : 0 ≤ depth) (floats : underflowFrom index depth steps = none) :
    0 ≤ depth + netDepth steps := by
  induction steps generalizing index depth with
  | nil => simpa [netDepth] using start
  | cons s rest ih =>
    simp only [underflowFrom] at floats
    split at floats
    · simp at floats
    next stays =>
      have level := ih (by omega) floats
      simp only [netDepth]
      omega

theorem gain_of_named {s : Step α} (named : s.isNamed = true) : s.gain = 1 := by
  cases s with
  | childOf | literal _ => rfl
  | sameDir | parentDir | descendantOf => simp [isNamed] at named

variable {accepts : α → ν → Bool} {names : List ν} {block : List (Step α)}

theorem aligns_append_congr {ys zs : List (Step α)}
    (same : ∀ seg detour, Aligns accepts names ys seg detour ↔ Aligns accepts names zs seg detour)
    (xs : List (Step α)) (seg detour : Nat) :
    Aligns accepts names (xs ++ ys) seg detour ↔ Aligns accepts names (xs ++ zs) seg detour := by
  induction xs generalizing seg detour with
  | nil => exact same seg detour
  | cons s xs ih => cases s <;> simp only [List.cons_append, Aligns, ih]

/-- Steps that lead back to where they began, whatever the place, and never sink below it. -/
structure Idle (accepts : α → ν → Bool) (names : List ν) (block : List (Step α)) : Prop where
  aligns : ∀ rest seg detour,
    Aligns accepts names (block ++ rest) seg detour ↔ Aligns accepts names rest seg detour
  underflow : ∀ (rest : List (Step α)) (index : Nat) (depth : Int), 0 ≤ depth →
    underflowFrom index depth (block ++ rest) = underflowFrom (index + block.length) depth rest

theorem idle_sameDir (accepts : α → ν → Bool) (names : List ν) :
    Idle accepts names [.sameDir] where
  aligns _ _ _ := Iff.rfl
  underflow rest index depth start := by
    have above : ¬depth < 0 := Int.not_lt.mpr start
    simp [underflowFrom, gain, above]

theorem idle_undone (accepts : α → ν → Bool) (names : List ν) {s : Step α}
    (named : s.isNamed = true) : Idle accepts names [s, .parentDir] where
  aligns rest seg detour := by
    rw [List.cons_append, aligns_named named]
    constructor
    -- The name that the step took is given back, or the level that it pushed is undone.
    · rintro (⟨rfl, _, aligns⟩ | aligns)
      · rcases aligns with ⟨above, _⟩ | ⟨_, _, aligns⟩
        · exact absurd above (Nat.lt_irrefl 0)
        · exact aligns
      · rcases aligns with ⟨_, aligns⟩ | ⟨ground, _⟩
        · exact aligns
        · exact absurd ground (Nat.succ_ne_zero detour)
    · intro aligns
      exact .inr (.inl ⟨Nat.succ_pos detour, aligns⟩)
  underflow rest index depth start := by
    have down : s.gain = 1 := gain_of_named named
    have up : (parentDir : Step α).gain = -1 := rfl
    have above : ¬depth + 1 < 0 := by omega
    have back : depth + 1 + -1 = depth := Int.add_neg_cancel_right depth 1
    simp [underflowFrom, down, up, above, back, Int.not_lt.mpr start, Nat.add_assoc]

theorem mapError_refusal (start count i : Nat) :
    (refusal (some i)).mapError (.insertSteps start count) =
      refusal (some (if i < start then i else i + count)) := rfl

theorem refusal_insert (idle : Idle accepts names block) (xs ys : List (Step α)) :
    refusal (underflowFrom 0 0 (xs ++ (block ++ ys))) =
      (refusal (underflowFrom 0 0 (xs ++ ys))).mapError (.insertSteps xs.length block.length) := by
  rw [underflowFrom_append, underflowFrom_append 0 0 xs ys]
  cases sinks : underflowFrom 0 0 xs with
  | some i =>
    have before : i < xs.length := by simpa using (underflowFrom_bounds sinks).2
    rw [Option.some_or, Option.some_or, mapError_refusal, if_pos before]
  | none =>
    have start := netDepth_of_underflowFrom (Int.le_refl 0) sinks
    rw [idle.underflow ys _ _ start, underflowFrom_add, Option.none_or, Option.none_or]
    cases later : underflowFrom (0 + xs.length) (0 + netDepth xs) ys with
    | none => rfl
    | some i =>
      have behind : ¬i < xs.length := by
        have bounds := underflowFrom_bounds later
        omega
      rw [Option.map_some, mapError_refusal, if_neg behind]

theorem judge_insert (idle : Idle accepts names block) (xs ys : List (Step α)) :
    judge accepts names (xs ++ (block ++ ys)) =
      (judge accepts names (xs ++ ys)).mapError (.insertSteps xs.length block.length) := by
  have same : Aligns accepts names (xs ++ (block ++ ys)) 0 0 ↔ Aligns accepts names (xs ++ ys) 0 0 :=
    aligns_append_congr (idle.aligns ys) xs 0 0
  by_cases aligns : Aligns accepts names (xs ++ ys) 0 0
  · rw [judge_of_aligns aligns, judge_of_aligns (same.mpr aligns)]
    rfl
  · rw [judge_of_not_aligns aligns, judge_of_not_aligns (mt same.mp aligns), refusal_insert idle]

/-- A named step and a step to the parent right after it can be put in anywhere, and so can a step
that stays where it is: the verdict is the same, and an error reports the same step under its new
number. Whether the named step accepts anything has no part in it. -/
theorem judge_insert_undone (accepts : α → ν → Bool) (names : List ν) (xs ys : List (Step α))
    (s : Step α) (named : s.isNamed = true) :
    judge accepts names (xs ++ [s, .parentDir] ++ ys) =
        (judge accepts names (xs ++ ys)).mapError (.insertSteps xs.length 2) ∧
      judge accepts names (xs ++ [.sameDir] ++ ys) =
        (judge accepts names (xs ++ ys)).mapError (.insertSteps xs.length 1) := by
  rw [List.append_assoc, List.append_assoc]
  exact ⟨judge_insert (idle_undone accepts names named) xs ys,
    judge_insert (idle_sameDir accepts names) xs ys⟩

theorem judge_insert_undone_before_underflow :
    (literal "z").isNamed = true ∧
      judge (fun p name => p == name) ["b"]
          ([.literal "a"] ++ [.literal "z", .parentDir] ++ [.parentDir, .parentDir]) =
        .error (.emptyPathUnderflow 4) ∧
      judge (fun p name => p == name) ["b"] ([.literal "a"] ++ [.sameDir] ++ [.parentDir, .parentDir]) =
        .error (.emptyPathUnderflow 3) := by
  have inserted := judge_insert_undone (fun p name => p == name) ["b"] [.literal "a"]
    [.parentDir, .parentDir] (.literal "z") rfl
  exact ⟨rfl, inserted.1.trans rfl, inserted.2.trans rfl⟩

end Step

end PathQuery
