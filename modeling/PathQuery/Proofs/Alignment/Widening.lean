import Mathlib.Data.List.Forall2
import PathQuery.Proofs.Alignment.Plain

set_option autoImplicit false

namespace PathQuery.Step

variable {α ν : Type}

/-- The order of steps by what they stand for. Named steps are below the step to the descendants, and
so is a step that stays where it is. -/
inductive Below (accepts : α → ν → Bool) : Step α → Step α → Prop where
  | refl (s : Step α) : Below accepts s s
  | literal {p q : α} (more : ∀ name, accepts p name = true → accepts q name = true) :
      Below accepts (.literal p) (.literal q)
  | anyName (p : α) : Below accepts (.literal p) .childOf
  | anyLevels : Below accepts .childOf .descendantOf
  | noLevel : Below accepts .sameDir .descendantOf
  | trans {s t u : Step α} (lower : Below accepts s t) (upper : Below accepts t u) :
      Below accepts s u

variable {accepts : α → ν → Bool} {names : List ν}

theorem takes_of_literal {p q : α} (more : ∀ name, accepts p name = true → accepts q name = true)
    {seg : Nat} (takes : (literal p).takes accepts names seg = true) :
    (literal q).takes accepts names seg = true := by
  rw [takes_literal, Option.any_eq_true] at takes ⊢
  obtain ⟨name, found, accepted⟩ := takes
  exact ⟨name, found, more name accepted⟩

theorem takes_childOf_iff {seg : Nat} :
    childOf.takes accepts names seg = true ↔ seg < names.length := by
  have inside : names[seg]?.isSome = true ↔ seg < names.length := by simp
  rw [takes_childOf, ← inside]
  cases names[seg]? <;> simp

theorem childOf_takes {s : Step α} {seg : Nat} (takes : s.takes accepts names seg = true) :
    childOf.takes accepts names seg = true := by
  rw [takes_childOf_iff]
  refine Nat.lt_of_not_le fun outside => ?_
  have missing : names[seg]? = none := List.getElem?_eq_none outside
  cases s <;> simp [Step.takes, missing] at takes

-- What the step itself does is the same, whatever follows it.
theorem aligns_cons_mono {rest rest' : List (Step α)} (s : Step α)
    (wider : ∀ seg detour, Aligns accepts names rest seg detour →
      Aligns accepts names rest' seg detour) {seg detour : Nat}
    (aligns : Aligns accepts names (s :: rest) seg detour) :
    Aligns accepts names (s :: rest') seg detour := by
  cases s with
  | sameDir => exact wider _ _ aligns
  | parentDir =>
    rcases aligns with ⟨above, aligns⟩ | ⟨ground, taken, aligns⟩
    · exact .inl ⟨above, wider _ _ aligns⟩
    · exact .inr ⟨ground, taken, wider _ _ aligns⟩
  | descendantOf =>
    rcases aligns with ⟨ground, skip, within, aligns⟩ | ⟨extra, aligns⟩
    · exact .inl ⟨ground, skip, within, wider _ _ aligns⟩
    · exact .inr ⟨extra, wider _ _ aligns⟩
  | childOf | literal _ =>
    rcases aligns with ⟨ground, takes, aligns⟩ | aligns
    · exact .inl ⟨ground, takes, wider _ _ aligns⟩
    · exact .inr (wider _ _ aligns)

theorem Below.aligns {s t : Step α} (below : Below accepts s t) {rest : List (Step α)}
    {seg detour : Nat} (aligns : Aligns accepts names (s :: rest) seg detour) :
    Aligns accepts names (t :: rest) seg detour := by
  induction below with
  | refl s => exact aligns
  | literal more =>
    rcases aligns with ⟨ground, takes, aligns⟩ | aligns
    · exact .inl ⟨ground, takes_of_literal more takes, aligns⟩
    · exact .inr aligns
  | anyName p =>
    rcases aligns with ⟨ground, takes, aligns⟩ | aligns
    · exact .inl ⟨ground, childOf_takes takes, aligns⟩
    · exact .inr aligns
  | anyLevels =>
    rcases aligns with ⟨ground, takes, aligns⟩ | aligns
    -- To take a name is to skip one, and a detour is one level that is pushed.
    · have inside : seg < names.length := takes_childOf_iff.mp takes
      exact .inl ⟨ground, 1, by omega, aligns⟩
    · exact .inr ⟨1, aligns⟩
  | noLevel => exact .inr ⟨0, aligns⟩
  | trans _ _ lower upper => exact upper (lower aligns)

theorem aligns_of_below {xs ys : List (Step α)} (below : List.Forall₂ (Below accepts) xs ys)
    {seg detour : Nat} (aligns : Aligns accepts names xs seg detour) :
    Aligns accepts names ys seg detour := by
  induction below generalizing seg detour with
  | nil => exact aligns
  | @cons s t xs ys here _ ih => exact here.aligns (aligns_cons_mono s (fun _ _ => ih) aligns)

theorem judge_of_below {xs ys : List (Step α)} (below : List.Forall₂ (Below accepts) xs ys)
    (matched : judge accepts names xs = .ok true) : judge accepts names ys = .ok true := by
  rw [judge_eq_ok_true_iff, search_iff_aligns] at matched ⊢
  exact aligns_of_below below matched

end PathQuery.Step
