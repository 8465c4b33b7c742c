import PathQuery.Proofs.Alignment.Plain

set_option autoImplicit false

namespace PathQuery.Step

variable {α ν : Type}

structure Level (ν : Type) where
  accepts : ν → Bool
  -- Whether the level was pushed together with others that reach past the last name.
  beyond : Bool

/-- How steps change a stack of levels, the top first, while they describe a path of `length` names.
Any number of levels can be chosen at each step to the descendants. -/
inductive Builds (accepts : α → ν → Bool) (length : Nat) :
    List (Step α) → List (Level ν) → List (Level ν) → Prop where
  | done (stack : List (Level ν)) : Builds accepts length [] stack stack
  | sameDir {rest : List (Step α)} {stack result : List (Level ν)}
      (after : Builds accepts length rest stack result) :
      Builds accepts length (.sameDir :: rest) stack result
  | parentDir {rest : List (Step α)} {stack result : List (Level ν)} (top : Level ν)
      (after : Builds accepts length rest stack result) :
      Builds accepts length (.parentDir :: rest) (top :: stack) result
  | childOf {rest : List (Step α)} {stack result : List (Level ν)}
      (after : Builds accepts length rest (⟨fun _ => true, false⟩ :: stack) result) :
      Builds accepts length (.childOf :: rest) stack result
  | literal {rest : List (Step α)} {stack result : List (Level ν)} (p : α)
      (after : Builds accepts length rest (⟨accepts p, false⟩ :: stack) result) :
      Builds accepts length (.literal p :: rest) stack result
  | descendantOf {rest : List (Step α)} {stack result : List (Level ν)} (k : Nat)
      (after : Builds accepts length rest
        (List.replicate k ⟨fun _ => true, decide (length < stack.length + k)⟩ ++ stack) result) :
      Builds accepts length (.descendantOf :: rest) stack result

def Fits (stack : List (Level ν)) (names : List ν) : Prop :=
  stack.length = names.length ∧
    ∀ (i : Nat) (level : Level ν) (name : ν),
      stack.reverse[i]? = some level → names[i]? = some name → level.accepts name = true

def Level.stands (level : Level ν) (names : List ν) (height : Nat) : Bool :=
  !level.beyond && names[height]?.any level.accepts

-- The levels up to the first one that cannot stay. That one has to be undone, and all above it.
def seated (names : List ν) : List (Level ν) → Nat
  | [] => 0
  | top :: stack =>
      if seated names stack = stack.length ∧ top.stands names stack.length then stack.length + 1
      else seated names stack

variable {accepts : α → ν → Bool} {names : List ν}

theorem seated_le_length (names : List ν) (stack : List (Level ν)) : seated names stack ≤ stack.length := by
  induction stack with
  | nil => exact Nat.le_refl 0
  | cons top stack ih =>
    simp only [seated, List.length_cons]
    split <;> omega

theorem seated_le_names (names : List ν) (stack : List (Level ν)) : seated names stack ≤ names.length := by
  induction stack with
  | nil => exact Nat.zero_le _
  | cons top stack ih =>
    simp only [seated]
    split
    next stays =>
      rcases Nat.lt_or_ge stack.length names.length with inside | outside
      · exact inside
      · simp [Level.stands, List.getElem?_eq_none outside] at stays
    · exact ih

theorem seated_le_cons (top : Level ν) (stack : List (Level ν)) :
    seated names stack ≤ seated names (top :: stack) := by
  have bound := seated_le_length names stack
  simp only [seated]
  split <;> omega

theorem seated_le_append (pushed stack : List (Level ν)) :
    seated names stack ≤ seated names (pushed ++ stack) := by
  induction pushed with
  | nil => exact Nat.le_refl _
  | cons top pushed ih => exact Nat.le_trans ih (seated_le_cons top _)

theorem seated_of_cons {top : Level ν} {stack : List (Level ν)} {seg : Nat}
    (within : seg ≤ stack.length) (sits : seg ≤ seated names (top :: stack)) :
    seg ≤ seated names stack := by
  simp only [seated] at sits
  split at sits <;> omega

theorem seated_replicate {stack : List (Level ν)} {k : Nat}
    (full : seated names stack = stack.length) (within : stack.length + k ≤ names.length) :
    seated names (List.replicate k ⟨fun _ => true, false⟩ ++ stack) = stack.length + k := by
  induction k with
  | zero => simpa using full
  | succ k ih =>
    have below := ih (by omega)
    have height : k + stack.length = stack.length + k := Nat.add_comm _ _
    have inside : stack.length + k < names.length := by omega
    simp [List.replicate_succ, seated, below, Level.stands, height, inside, Nat.add_assoc]

theorem seated_replicate_of_not_stands (stack : List (Level ν)) (level : Level ν) (k : Nat)
    (cannot : seated names stack = stack.length → level.beyond = true) :
    seated names (List.replicate k level ++ stack) = seated names stack := by
  have bound := seated_le_length names stack
  induction k with
  | zero => rfl
  | succ k ih =>
    rw [List.replicate_succ, List.cons_append, seated, ih, if_neg]
    rintro ⟨full, stands⟩
    simp only [List.length_append, List.length_replicate] at full
    simp [Level.stands, cannot (by omega)] at stands

theorem seated_eq_length_iff {stack : List (Level ν)} :
    seated names stack = stack.length ↔
      ∀ (i : Nat) (level : Level ν), stack.reverse[i]? = some level → level.stands names i = true := by
  induction stack with
  | nil => simp [seated]
  | cons top stack ih =>
    have bound := seated_le_length names stack
    have step : seated names (top :: stack) = stack.length + 1 ↔
        seated names stack = stack.length ∧ top.stands names stack.length = true := by
      simp only [seated]
      split
      next stays => simp [stays]
      next leaves => exact ⟨fun full => by omega, fun stays => absurd stays leaves⟩
    rw [List.length_cons, step, ih, List.reverse_cons]
    constructor
    · rintro ⟨below, stands⟩ i level present
      rcases Nat.lt_trichotomy i stack.length with inside | rfl | outside
      · exact below i level (by simpa [List.getElem?_append, inside] using present)
      · obtain rfl : top = level := by simpa [List.getElem?_append] using present
        exact stands
      · simp [List.getElem?_append, Nat.lt_asymm outside, Nat.sub_ne_zero_of_lt outside] at present
    · intro all
      refine ⟨fun i level present => all i level ?_, all stack.length top ?_⟩
      · have inside := (List.getElem?_eq_some_iff.mp present).1
        rw [List.getElem?_append_left inside, present]
      · simp

theorem fits_iff_seated {stack : List (Level ν)} :
    (Fits stack names ∧ ∀ level ∈ stack, level.beyond = false) ↔
      stack.length = names.length ∧ seated names stack = stack.length := by
  rw [seated_eq_length_iff, Fits, and_assoc]
  refine and_congr_right fun same => ⟨?_, ?_⟩
  · rintro ⟨accepted, clean⟩ i level present
    have inside : i < names.length := by
      have bound := (List.getElem?_eq_some_iff.mp present).1
      simpa [same] using bound
    have found : names[i]? = some names[i] := List.getElem?_eq_getElem inside
    have member : level ∈ stack := List.mem_reverse.mp (List.mem_of_getElem? present)
    simp [Level.stands, clean level member, found, accepted i level _ present found]
  · intro stands
    refine ⟨fun i level name present found => ?_, fun level member => ?_⟩
    · have stays := stands i level present
      simp only [Level.stands, found, Option.any_some, Bool.and_eq_true] at stays
      exact stays.2
    · obtain ⟨i, present⟩ := List.mem_iff_getElem?.mp (List.mem_reverse.mpr member)
      have stays := stands i level present
      simp only [Level.stands, Bool.and_eq_true, Bool.not_eq_true'] at stays
      exact stays.1

theorem named_aligns {s : Step α} {test : ν → Bool} {rest : List (Step α)} {stack : List (Level ν)}
    (reads : s.takes accepts names stack.length = names[stack.length]?.any test)
    (aligns : Aligns accepts names rest (seated names (⟨test, false⟩ :: stack))
      (stack.length + 1 - seated names (⟨test, false⟩ :: stack))) :
    (stack.length - seated names stack = 0 ∧ s.takes accepts names (seated names stack) = true ∧
        Aligns accepts names rest (seated names stack + 1) 0) ∨
      Aligns accepts names rest (seated names stack) (stack.length - seated names stack + 1) := by
  have bound := seated_le_length names stack
  simp only [seated] at aligns
  split at aligns
  next stays =>
    obtain ⟨full, stands⟩ := stays
    rw [Nat.sub_self] at aligns
    refine .inl ⟨by omega, ?_, full ▸ aligns⟩
    rw [full, reads]
    simpa [Level.stands] using stands
  next leaves =>
    have pending : stack.length + 1 - seated names stack = stack.length - seated names stack + 1 := by
      omega
    exact .inr (pending ▸ aligns)

theorem Builds.aligns {steps : List (Step α)} {stack result : List (Level ν)}
    (builds : Builds accepts names.length steps stack result)
    (fits : result.length = names.length ∧ seated names result = result.length) :
    Aligns accepts names steps (seated names stack) (stack.length - seated names stack) := by
  induction builds with
  | done stack => simp [Aligns, fits]
  | sameDir after ih => exact ih fits
  | @parentDir rest stack result top after ih =>
    have bound := seated_le_length names stack
    have aligns := ih fits
    simp only [seated, List.length_cons, Aligns]
    split
    next stays =>
      rw [stays.1, Nat.sub_self] at aligns
      exact .inr ⟨Nat.sub_self _, Nat.succ_pos _, aligns⟩
    next leaves =>
      refine .inl ⟨by omega, ?_⟩
      have popped : stack.length + 1 - seated names stack - 1 =
          stack.length - seated names stack := by
        omega
      rwa [popped]
  | childOf after ih => exact named_aligns (takes_childOf accepts names _) (ih fits)
  | literal p after ih => exact named_aligns (takes_literal accepts p names _) (ih fits)
  | @descendantOf rest stack result k after ih =>
    have bound := seated_le_length names stack
    have aligns := ih fits
    rw [List.length_append, List.length_replicate] at aligns
    by_cases inside : seated names stack = stack.length ∧ stack.length + k ≤ names.length
    · obtain ⟨full, within⟩ := inside
      have short : decide (names.length < stack.length + k) = false := by simpa using within
      rw [short, seated_replicate full within] at aligns
      refine .inl ⟨by omega, k, by omega, ?_⟩
      rw [full]
      simpa [Nat.add_comm] using aligns
    · have lost := seated_replicate_of_not_stands stack
        ⟨fun _ => true, decide (names.length < stack.length + k)⟩ k
        fun (full : seated names stack = stack.length) => by simpa [full] using inside
      rw [lost] at aligns
      have pending : k + stack.length - seated names stack =
          stack.length - seated names stack + k := by
        omega
      exact .inr ⟨k, pending ▸ aligns⟩

theorem named_pushes {s : Step α} {test : ν → Bool} {rest : List (Step α)} {stack : List (Level ν)}
    {seg detour : Nat} (reads : s.takes accepts names seg = names[seg]?.any test)
    (height : stack.length = seg + detour) (sits : seg ≤ seated names stack)
    (aligns : (detour = 0 ∧ s.takes accepts names seg = true ∧
        Aligns accepts names rest (seg + 1) 0) ∨ Aligns accepts names rest seg (detour + 1)) :
    ∃ seg' detour', Aligns accepts names rest seg' detour' ∧ stack.length + 1 = seg' + detour' ∧
      seg' ≤ seated names (⟨test, false⟩ :: stack) := by
  have bound := seated_le_length names stack
  rcases aligns with ⟨ground, takes, aligns⟩ | aligns
  · have full : seated names stack = stack.length := by omega
    have level : stack.length = seg := by omega
    refine ⟨seg + 1, 0, aligns, by omega, ?_⟩
    simp [seated, full, level, Level.stands, ← reads, takes]
  · exact ⟨seg, detour + 1, aligns, by omega, Nat.le_trans sits (seated_le_cons _ stack)⟩

theorem parentDir_pops {rest : List (Step α)} {top : Level ν} {stack : List (Level ν)}
    {seg detour : Nat} (height : (top :: stack).length = seg + detour)
    (sits : seg ≤ seated names (top :: stack))
    (aligns : Aligns accepts names (.parentDir :: rest) seg detour) :
    ∃ seg' detour', Aligns accepts names rest seg' detour' ∧ stack.length = seg' + detour' ∧
      seg' ≤ seated names stack := by
  rw [List.length_cons] at height
  rcases aligns with ⟨above, aligns⟩ | ⟨ground, taken, aligns⟩
  · exact ⟨seg, detour - 1, aligns, by omega, seated_of_cons (by omega) sits⟩
  · have below := Nat.le_trans (Nat.sub_le seg 1) sits
    exact ⟨seg - 1, 0, aligns, by omega, seated_of_cons (by omega) below⟩

-- The levels that a step to the descendants skips are names, so that they sit on what is full. Those
-- that are a detour need not sit at all.
theorem descendantOf_pushes {rest : List (Step α)} {stack : List (Level ν)} {seg detour : Nat}
    (height : stack.length = seg + detour) (sits : seg ≤ seated names stack)
    (aligns : Aligns accepts names (.descendantOf :: rest) seg detour) :
    ∃ k seg' detour', Aligns accepts names rest seg' detour' ∧
      stack.length + k = seg' + detour' ∧
      seg' ≤ seated names (List.replicate k
        ⟨fun _ => true, decide (names.length < stack.length + k)⟩ ++ stack) := by
  have bound := seated_le_length names stack
  rcases aligns with ⟨ground, skip, within, aligns⟩ | ⟨extra, aligns⟩
  · have full : seated names stack = stack.length := by omega
    have inside := seated_le_names names stack
    have fits : stack.length + skip ≤ names.length := by omega
    have short : decide (names.length < stack.length + skip) = false := by simpa using fits
    refine ⟨skip, seg + skip, 0, aligns, by omega, ?_⟩
    rw [short, seated_replicate full fits]
    omega
  · exact ⟨extra, seg, detour + extra, aligns, by omega,
      Nat.le_trans sits (seated_le_append _ stack)⟩

theorem Aligns.builds {steps : List (Step α)} {seg detour : Nat}
    (aligns : Aligns accepts names steps seg detour) (stack : List (Level ν))
    (height : stack.length = seg + detour) (sits : seg ≤ seated names stack) :
    ∃ result, Builds accepts names.length steps stack result ∧
      result.length = names.length ∧ seated names result = result.length := by
  induction steps generalizing seg detour stack with
  | nil =>
    have bound := seated_le_length names stack
    obtain ⟨ground, all⟩ := aligns
    exact ⟨stack, .done stack, by omega, by omega⟩
  | cons s rest ih =>
    cases s with
    | sameDir =>
      obtain ⟨result, builds, fits⟩ := ih aligns stack height sits
      exact ⟨result, .sameDir builds, fits⟩
    | parentDir =>
      cases stack with
      | nil =>
        simp only [List.length_nil] at height
        rcases aligns with ⟨above, _⟩ | ⟨_, taken, _⟩ <;> omega
      | cons top stack =>
        obtain ⟨seg', detour', aligns', height', sits'⟩ := parentDir_pops height sits aligns
        obtain ⟨result, builds, fits⟩ := ih aligns' stack height' sits'
        exact ⟨result, .parentDir top builds, fits⟩
    | childOf =>
      obtain ⟨seg', detour', aligns', height', sits'⟩ :=
        named_pushes (takes_childOf accepts names seg) height sits aligns
      obtain ⟨result, builds, fits⟩ := ih aligns' (_ :: stack) height' sits'
      exact ⟨result, .childOf builds, fits⟩
    | literal p =>
      obtain ⟨seg', detour', aligns', height', sits'⟩ :=
        named_pushes (takes_literal accepts p names seg) height sits aligns
      obtain ⟨result, builds, fits⟩ := ih aligns' (_ :: stack) height' sits'
      exact ⟨result, .literal p builds, fits⟩
    | descendantOf =>
      obtain ⟨k, seg', detour', aligns', height', sits'⟩ := descendantOf_pushes height sits aligns
      obtain ⟨result, builds, fits⟩ := ih aligns' (List.replicate k _ ++ stack)
        (by simpa [Nat.add_comm] using height') sits'
      exact ⟨result, .descendantOf k builds, fits⟩

theorem aligns_iff_builds (accepts : α → ν → Bool) (names : List ν) (steps : List (Step α)) :
    Aligns accepts names steps 0 0 ↔
      ∃ stack, Builds accepts names.length steps [] stack ∧ Fits stack names ∧
        ∀ level ∈ stack, level.beyond = false := by
  simp only [fits_iff_seated]
  constructor
  · intro aligns
    exact aligns.builds [] rfl (Nat.zero_le _)
  · rintro ⟨stack, builds, fits⟩
    exact builds.aligns fits

/-- No step climbs behind a step to the descendants. -/
def ClimbsFirst (steps : List (Step α)) : Prop :=
  ∀ rest, .descendantOf :: rest <:+ steps → .parentDir ∉ rest

theorem ClimbsFirst.tail {s : Step α} {rest : List (Step α)} (first : ClimbsFirst (s :: rest)) :
    ClimbsFirst rest :=
  fun later suffix => first later (suffix.trans (List.suffix_cons s rest))

namespace Builds

variable {steps : List (Step α)} {stack result : List (Level ν)} {length : Nat}

theorem length_le (builds : Builds accepts length steps stack result)
    (stays : .parentDir ∉ steps) : stack.length ≤ result.length := by
  induction builds with
  | done => exact Nat.le_refl _
  | parentDir => simp at stays
  | sameDir _ ih => exact ih (List.not_mem_of_not_mem_cons stays)
  | childOf _ ih | literal _ _ ih =>
    exact Nat.le_of_succ_le (ih (List.not_mem_of_not_mem_cons stays))
  | descendantOf _ _ ih =>
    have later := ih (List.not_mem_of_not_mem_cons stays)
    rw [List.length_append] at later
    omega

theorem within (builds : Builds accepts length steps stack result) (first : ClimbsFirst steps)
    (ends : result.length = length) (inside : ∀ level ∈ stack, level.beyond = false) :
    ∀ level ∈ result, level.beyond = false := by
  induction builds with
  | done => exact inside
  | sameDir _ ih => exact ih first.tail ends inside
  | parentDir _ _ ih => exact ih first.tail ends (List.forall_mem_cons.mp inside).2
  | childOf _ ih | literal _ _ ih =>
    exact ih first.tail ends (List.forall_mem_cons.mpr ⟨rfl, inside⟩)
  | @descendantOf rest stack _ k after ih =>
    -- Nothing is taken off behind this step, so all that it pushes is there in the end.
    have height := after.length_le (first rest (List.suffix_refl _))
    rw [List.length_append, List.length_replicate, ends] at height
    have short : decide (length < stack.length + k) = false := by
      rw [decide_eq_false_iff_not]
      omega
    refine ih first.tail ends fun level member => ?_
    rcases List.mem_append.mp member with pushed | below
    · rw [List.eq_of_mem_replicate pushed]
      exact short
    · exact inside level below

end Builds

/-- A path matches where levels can be chosen so that the stack fits it and keeps no level that a step
to the descendants pushed beyond the end of the path. The last condition is idle where no step climbs
behind a step to the descendants. -/
theorem judge_ok_true_iff_levels (accepts : α → ν → Bool) (names : List ν) (steps : List (Step α)) :
    (judge accepts names steps = .ok true ↔
        ∃ stack, Builds accepts names.length steps [] stack ∧ Fits stack names ∧
          ∀ level ∈ stack, level.beyond = false) ∧
      (ClimbsFirst steps →
        (judge accepts names steps = .ok true ↔
          ∃ stack, Builds accepts names.length steps [] stack ∧ Fits stack names)) := by
  have exact_levels : judge accepts names steps = .ok true ↔
      ∃ stack, Builds accepts names.length steps [] stack ∧ Fits stack names ∧
        ∀ level ∈ stack, level.beyond = false := by
    rw [judge_eq_ok_true_iff, search_iff_aligns, aligns_iff_builds]
  refine ⟨exact_levels, fun first => exact_levels.trans ⟨?_, ?_⟩⟩
  · rintro ⟨stack, builds, fits, _⟩
    exact ⟨stack, builds, fits⟩
  · rintro ⟨stack, builds, fits⟩
    exact ⟨stack, builds, fits, builds.within first fits.1 (by simp)⟩

/-- One name is missed although two levels and a step back fit it. -/
theorem judge_misses_level_below_overrun :
    judge (fun (_ _ : String) => true) ["a"] [.descendantOf, .parentDir] =
        .error (.emptyPathUnderflow 1) ∧
      ∃ stack, Builds (fun (_ _ : String) => true) 1 [.descendantOf, .parentDir] [] stack ∧
        Fits stack ["a"] := by
  refine ⟨rfl, [⟨fun _ => true, true⟩], .descendantOf 2 (.parentDir _ (.done _)), rfl, ?_⟩
  intro i level name present _
  obtain ⟨_, rfl⟩ := List.getElem?_eq_some_iff.mp present
  simp

end PathQuery.Step
