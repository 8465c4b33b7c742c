import PathQuery.Proofs.Alignment.Attempt

set_option autoImplicit false

namespace PathQuery.Step

variable {α ν : Type}

/-- Whether the steps can lead to the end of the path when `seg` names are taken and `detour` levels
wait to be undone. -/
def Aligns (accepts : α → ν → Bool) (names : List ν) : List (Step α) → (seg detour : Nat) → Prop
  | [], seg, detour => detour = 0 ∧ seg = names.length
  | .sameDir :: rest, seg, detour => Aligns accepts names rest seg detour
  | .parentDir :: rest, seg, detour =>
      0 < detour ∧ Aligns accepts names rest seg (detour - 1) ∨
        detour = 0 ∧ 0 < seg ∧ Aligns accepts names rest (seg - 1) 0
  | .descendantOf :: rest, seg, detour =>
      (detour = 0 ∧ ∃ skip ≤ names.length - seg, Aligns accepts names rest (seg + skip) 0) ∨
        ∃ extra, Aligns accepts names rest seg (detour + extra)
  | s :: rest, seg, detour =>
      (detour = 0 ∧ s.takes accepts names seg = true ∧ Aligns accepts names rest (seg + 1) 0) ∨
        Aligns accepts names rest seg (detour + 1)

variable {accepts : α → ν → Bool} {names : List ν}

def isNamed : Step α → Bool
  | .childOf | .literal _ => true
  | _ => false

theorem aligns_named {s : Step α} (named : s.isNamed = true) (rest : List (Step α))
    (seg detour : Nat) :
    Aligns accepts names (s :: rest) seg detour ↔
      (detour = 0 ∧ s.takes accepts names seg = true ∧ Aligns accepts names rest (seg + 1) 0) ∨
        Aligns accepts names rest seg (detour + 1) := by
  cases s with
  | childOf | literal _ => exact Iff.rfl
  | sameDir | parentDir | descendantOf => simp [isNamed] at named

theorem drop_of_getElem? {β : Type} {items : List β} {i : Nat} {item : β}
    (here : items[i]? = some item) : items.drop i = item :: items.drop (i + 1) := by
  obtain ⟨inside, rfl⟩ := List.getElem?_eq_some_iff.mp here
  exact List.drop_eq_getElem_cons inside

theorem getElem?_of_drop {β : Type} {items rest : List β} {i : Nat} {item : β}
    (ahead : items.drop i = item :: rest) : items[i]? = some item ∧ items.drop (i + 1) = rest := by
  constructor
  · rw [← List.head?_drop, ahead, List.head?_cons]
  · rw [← List.tail_drop, ahead, List.tail_cons]

-- Every level has to be undone in the end, which is why the search may bound its detours.
theorem Aligns.detour_le_parents {steps : List (Step α)} {seg detour : Nat}
    (aligns : Aligns accepts names steps seg detour) : detour ≤ parents steps := by
  induction steps generalizing seg detour with
  | nil => exact Nat.le_of_eq aligns.1
  | cons s rest ih =>
    rw [parents_cons]
    cases s with
    | sameDir => exact ih aligns
    | parentDir =>
      rcases aligns with ⟨_, aligns⟩ | ⟨ground, _⟩
      · have bound := ih aligns
        simp only
        omega
      · omega
    | descendantOf =>
      rcases aligns with ⟨ground, _⟩ | ⟨extra, aligns⟩
      · omega
      · have bound := ih aligns
        simp only
        omega
    | childOf | literal _ =>
      rcases aligns with ⟨ground, _⟩ | aligns
      · omega
      · have bound := ih aligns
        simp only
        omega

theorem mem_upTo {first last n : Nat} : n ∈ upTo first last ↔ first ≤ n ∧ n ≤ last := by
  simp only [upTo, List.mem_range'_1]
  omega

section Advance

variable {inv : Trail → Prop} {rest : List (Step α)} {next : Nat → Nat → Attempt}

theorem advance_decides_named (s : Step α) (seg detour : Nat)
    (nextDecides : ∀ seg detour,
      Attempt.Decides inv (Aligns accepts names rest seg detour) (next seg detour)) :
    Attempt.Decides inv
      ((detour = 0 ∧ s.takes accepts names seg = true ∧ Aligns accepts names rest (seg + 1) 0) ∨
        Aligns accepts names rest seg (detour + 1))
      ((if detour = 0 ∧ s.takes accepts names seg then next (seg + 1) 0 else pure false).orElse
        (if detour < parents rest then next seg (detour + 1) else pure false)) := by
  apply Attempt.Decides.orElse
  · split
    next can => exact (nextDecides _ _).congr (by simp [can])
    next cannot =>
      refine (Attempt.decides_pure false).congr ?_
      simpa using fun ground takes _ => cannot ⟨ground, takes⟩
  · split
    · exact nextDecides _ _
    next bound =>
      refine (Attempt.decides_pure false).congr ?_
      simpa using fun aligns => bound (Aligns.detour_le_parents aligns)

theorem advance_decides_descendantOf (index seg detour : Nat)
    (nextDecides : ∀ seg detour,
      Attempt.Decides inv (Aligns accepts names rest seg detour) (next seg detour)) :
    Attempt.Decides inv (Aligns accepts names (.descendantOf :: rest) seg detour)
      (advance accepts names index .descendantOf (parents rest) next seg detour) := by
  have pushes (first : Nat) := Attempt.decides_firstOf_map
    (upTo first (parents rest - detour))
    fun extra _ => nextDecides seg (detour + extra)
  have skips := Attempt.decides_firstOf_map (upTo 0 (names.length - seg))
    fun skip _ => nextDecides (seg + skip) 0
  have bounded {extra : Nat} (aligns : Aligns accepts names rest seg (detour + extra)) :
      extra ≤ parents rest - detour := by
    have bound := aligns.detour_le_parents
    omega
  simp only [mem_upTo, Nat.zero_le, true_and] at pushes skips
  by_cases ground : detour = 0
  · subst ground
    refine (skips.orElse (pushes 1)).congr ⟨?_, ?_⟩
    · rintro (⟨skip, le, aligns⟩ | ⟨extra, _, aligns⟩)
      · exact .inl ⟨rfl, skip, le, aligns⟩
      · exact .inr ⟨extra, aligns⟩
    · rintro (⟨_, skip, le, aligns⟩ | ⟨extra, aligns⟩)
      · exact .inl ⟨skip, le, aligns⟩
      -- To push nothing is to skip nothing.
      · rcases Nat.eq_zero_or_pos extra with rfl | positive
        · exact .inl ⟨0, Nat.zero_le _, aligns⟩
        · exact .inr ⟨extra, ⟨positive, bounded aligns⟩, aligns⟩
  · simp only [advance, ground, if_false]
    refine ((Attempt.decides_pure false).orElse (pushes 0)).congr ?_
    simp only [Aligns, ground, Bool.false_eq_true, false_or, false_and, Nat.zero_le, true_and]
    exact ⟨fun ⟨extra, _, aligns⟩ => ⟨extra, aligns⟩,
      fun ⟨extra, aligns⟩ => ⟨extra, bounded aligns, aligns⟩⟩

theorem advance_decides (s : Step α) (index seg detour : Nat)
    (climb : ∀ t, inv t → inv (t.climb index))
    (nextDecides : ∀ seg detour,
      Attempt.Decides inv (Aligns accepts names rest seg detour) (next seg detour)) :
    Attempt.Decides inv (Aligns accepts names (s :: rest) seg detour)
      (advance accepts names index s (parents rest) next seg detour) := by
  cases s with
  | sameDir => exact nextDecides seg detour
  | parentDir =>
    by_cases above : 0 < detour
    · simp only [advance, above, if_true]
      exact (nextDecides seg (detour - 1)).congr (by simp [Aligns, above, Nat.ne_of_gt above])
    · have ground : detour = 0 := by omega
      subst ground
      by_cases taken : 0 < seg
      · simp only [advance, taken, if_true, Nat.lt_irrefl, if_false]
        exact (nextDecides (seg - 1) 0).congr (by simp [Aligns, taken])
      · simp only [advance, taken, Nat.lt_irrefl, if_false]
        exact (Attempt.decides_climb index climb).congr (by simp [Aligns, taken])
  | childOf => exact advance_decides_named .childOf seg detour nextDecides
  | literal p => exact advance_decides_named (.literal p) seg detour nextDecides
  | descendantOf => exact advance_decides_descendantOf index seg detour nextDecides

end Advance

/-- What the search remembers is true: no alignment leads from a place where it has failed. -/
def Sound (accepts : α → ν → Bool) (names : List ν) (steps : List (Step α)) (t : Trail) : Prop :=
  ∀ p ∈ t.failed, ¬Aligns accepts names (steps.drop p.step) p.seg p.detour

theorem run_decides (steps : List (Step α)) {rest : List (Step α)} {index : Nat}
    (ahead : steps.drop index = rest) (seg detour : Nat) :
    Attempt.Decides (Sound accepts names steps) (Aligns accepts names rest seg detour)
      (run accepts names index rest seg detour) := by
  induction rest generalizing index seg detour with
  | nil => exact (Attempt.decides_pure _).congr (by simp [Aligns])
  | cons s rest ih =>
    have ahead' : steps.drop (index + 1) = rest := by
      rw [← List.tail_drop, ahead, List.tail_cons]
    refine Attempt.Decides.remember _ ?_ ?_ ?_
    · exact advance_decides s index seg detour (fun t sound => sound) fun seg detour =>
        ih ahead' seg detour
    · intro t sound member
      simpa only [ahead] using sound _ member
    · intro t sound missed p member
      rcases (Trail.mem_fail t _ p).mp member with rfl | member
      · simpa only [ahead] using missed
      · exact sound p member

theorem search_iff_aligns (accepts : α → ν → Bool) (names : List ν) (steps : List (Step α)) :
    (search accepts names steps).1 = true ↔ Aligns accepts names steps 0 0 := by
  have sound : Sound accepts names steps .start := fun p member =>
    absurd member (Trail.not_mem_start p)
  exact (run_decides steps List.drop_zero 0 0 .start sound).2

theorem judge_eq_ok_true_iff (accepts : α → ν → Bool) (names : List ν) (steps : List (Step α)) :
    judge accepts names steps = .ok true ↔ (search accepts names steps).1 = true := by
  rcases result : search accepts names steps with ⟨found, trail⟩
  cases found with
  | true => simp [judge, result]
  | false => cases first : trail.underflow <;> simp [judge, result, refusal, first]

end PathQuery.Step
