import PathQuery.Query.Alignment

set_option autoImplicit false

namespace PathQuery.Attempt

variable {inv : Trail → Prop} {a b : Attempt} {p q : Prop}

def Keeps (inv : Trail → Prop) (a : Attempt) : Prop :=
  ∀ t, inv t → inv (a.run t).2

theorem keeps_pure (found : Bool) : Keeps inv (pure found) :=
  fun _ holds => holds

theorem Keeps.orElse (first : Keeps inv a) (second : Keeps inv b) : Keeps inv (a.orElse b) := by
  intro t holds
  rw [run_orElse]
  split
  · exact first t holds
  · exact second _ (first t holds)

theorem keeps_firstOf {attempts : List Attempt} (all : ∀ a ∈ attempts, Keeps inv a) :
    Keeps inv (firstOf attempts) := by
  induction attempts with
  | nil => exact keeps_pure false
  | cons a rest ih =>
    exact (all a (by simp)).orElse (ih fun b member => all b (by simp [member]))

theorem Keeps.remember (place : Place) (keeps : Keeps inv a)
    (stable : ∀ t, inv t → inv (t.fail place)) : Keeps inv (a.remember place) := by
  intro t holds
  rw [run_remember]
  split
  · exact holds
  · split
    · exact keeps t holds
    · exact stable _ (keeps t holds)

-- Searches share their trail, so what one of them decides must not hang on what an earlier one left.
def Decides (inv : Trail → Prop) (p : Prop) (a : Attempt) : Prop :=
  ∀ t, inv t → inv (a.run t).2 ∧ ((a.run t).1 = true ↔ p)

theorem Decides.congr (decides : Decides inv p a) (same : p ↔ q) : Decides inv q a :=
  fun t holds => ⟨(decides t holds).1, (decides t holds).2.trans same⟩

theorem decides_pure (found : Bool) : Decides inv (found = true) (pure found) :=
  fun _ holds => ⟨holds, Iff.rfl⟩

theorem decides_climb (step : Nat) (stable : ∀ t, inv t → inv (t.climb step)) :
    Decides inv False (climb step) := by
  intro t holds
  exact ⟨stable t holds, by simp [run_climb]⟩

theorem Decides.orElse (first : Decides inv p a) (second : Decides inv q b) :
    Decides inv (p ∨ q) (a.orElse b) := by
  intro t holds
  obtain ⟨kept, found⟩ := first t holds
  obtain ⟨keptAfter, foundAfter⟩ := second _ kept
  rw [run_orElse]
  split
  next yes => exact ⟨kept, by simp [found.mp yes]⟩
  next no => exact ⟨keptAfter, foundAfter.trans (by simp [mt found.mpr no])⟩

theorem decides_firstOf_map {ι : Type} {good : ι → Prop} {attempt : ι → Attempt} (choices : List ι)
    (each : ∀ i ∈ choices, Decides inv (good i) (attempt i)) :
    Decides inv (∃ i ∈ choices, good i) (firstOf (choices.map attempt)) := by
  induction choices with
  | nil => exact (decides_pure false).congr (by simp)
  | cons i rest ih =>
    have later := ih fun j member => each j (by simp [member])
    exact ((each i (by simp)).orElse later).congr (by simp)

theorem Decides.remember (place : Place) (decides : Decides inv p a)
    (known : ∀ t, inv t → place ∈ t.failed → ¬p)
    (stable : ∀ t, inv t → ¬p → inv (t.fail place)) : Decides inv p (a.remember place) := by
  intro t holds
  obtain ⟨kept, found⟩ := decides t holds
  rw [run_remember]
  split
  next member => exact ⟨holds, by simp [known t holds member]⟩
  next =>
    split
    next yes => exact ⟨kept, by simp [found.mp yes]⟩
    next no =>
      have missed := mt found.mpr no
      exact ⟨stable _ kept missed, by simp [missed]⟩

end PathQuery.Attempt
