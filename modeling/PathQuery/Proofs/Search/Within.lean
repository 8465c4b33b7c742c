import PathQuery.Proofs.Search.Results

set_option autoImplicit false

namespace PathQuery

variable {α : Type}

/-- Nodes from which no link leads away, and which two graphs with two tests see alike. -/
structure Shared (inside : α → Prop) (g g' : Graph α) (accepts accepts' : α → Bool) : Prop where
  closed : ∀ a, inside a → ∀ b ∈ g.children a, inside b
  children : ∀ a, inside a → g'.children a = g.children a
  accepts : ∀ a, inside a → accepts' a = accepts a

namespace Search

variable [DecidableEq α] {inside : α → Prop} {g g' : Graph α} {accepts accepts' : α → Bool}
  {f next : Frontier α} {a : α}

def Waiting (inside : α → Prop) (f : Frontier α) : Prop := ∀ a ∈ f.pending, inside a

structure Within (inside : α → Prop) (s : Search α) : Prop where
  waiting : Waiting inside s.frontier
  only : ∀ a, s.only = some a → inside a

theorem visit?_within (shared : Shared inside g g' accepts accepts') (waiting : Waiting inside f) :
    visit? g' f = visit? g f ∧
      ∀ a next, visit? g f = some (a, next) → inside a ∧ Waiting inside next := by
  cases fresh : Frontier.nextFresh? f.visited f.pending with
  | none => simp [visit?, Frontier.pop, fresh]
  | some found =>
    obtain ⟨a, rest⟩ := found
    obtain ⟨_, skipped, split, _⟩ := Frontier.nextFresh?_some fresh
    have here : inside a := waiting a (by simp [split])
    simp only [visit?, Frontier.pop, fresh, shared.children a here, true_and]
    rintro _ _ ⟨⟩
    refine ⟨here, fun b waits => ?_⟩
    rcases Frontier.mem_pending_of_visit.mp waits with ahead | ⟨child, _⟩
    · exact waiting b (by simp [split, ahead])
    · exact shared.closed a here b child

theorem seek_within (shared : Shared inside g g' accepts accepts') (waiting : Waiting inside f) :
    seek g' accepts' f = seek g accepts f ∧ (∀ a, (seek g accepts f).1 = some a → inside a) ∧
      Waiting inside (seek g accepts f).2 := by
  induction f using Frontier.visit_induction g with
  | idle f stops =>
    obtain ⟨same, _⟩ := visit?_within shared waiting
    rw [seek_of_idle stops, seek_of_idle (same.trans stops)]
    exact ⟨rfl, by simp, by simp [Waiting]⟩
  | visit f a next visits ih =>
    obtain ⟨same, leaves⟩ := visit?_within shared waiting
    obtain ⟨here, waiting'⟩ := leaves a next visits
    rw [seek_of_visit visits, seek_of_visit (same.trans visits), shared.accepts a here]
    split
    · exact ⟨rfl, fun b found => Option.some.inj found ▸ here, waiting'⟩
    · exact ih waiting'

theorem next_within (shared : Shared inside g g' accepts accepts') {s : Search α}
    (within : Within inside s) :
    s.next g' accepts' = s.next g accepts ∧ (∀ a, (s.next g accepts).1 = some a → inside a) ∧
      Within inside (s.next g accepts).2 := by
  obtain ⟨same, found, waiting⟩ := seek_within shared within.waiting
  unfold next
  split
  · exact ⟨by rw [same], found, waiting, within.only⟩
  · cases given : s.only with
    | none => exact ⟨rfl, by simp, within⟩
    | some a =>
      refine ⟨rfl, fun b same => ?_, fun b waits => ?_, by simp⟩
      · exact within.only b (given.trans same)
      · have marked : (s.frontier.mark a).2.pending = s.frontier.pending := by
          unfold Frontier.mark
          split <;> rfl
        exact within.waiting b (marked ▸ waits)

/-- However many results are taken, all are among the nodes, and nothing else has a part in them. -/
theorem take_within (shared : Shared inside g g' accepts accepts') (limit : Nat) {s : Search α}
    (within : Within inside s) :
    s.take g' accepts' limit = s.take g accepts limit ∧
      ∀ a ∈ (s.take g accepts limit).1, inside a := by
  induction limit generalizing s with
  | zero => exact ⟨rfl, by simp [take]⟩
  | succ limit ih =>
    obtain ⟨same, found, within'⟩ := next_within shared within
    simp only [take, same]
    cases given : s.next g accepts with
    | mk result after =>
      rw [given] at found within'
      cases result with
      | none => exact ⟨rfl, by simp⟩
      | some a =>
        obtain ⟨same', found'⟩ := ih within'
        exact ⟨by simp only [same'], List.forall_mem_cons.mpr ⟨found a rfl, found'⟩⟩

theorem begin_within {start : α} (there : inside start) (waiting : Waiting inside f)
    (follows : Bool) : Within inside (.begin follows start f) := by
  unfold Search.begin
  split
  · refine ⟨fun a waits => ?_, by simp⟩
    simp only [Frontier.push] at waits
    split at waits
    · exact waiting a waits
    · rcases List.mem_append.mp waits with earlier | last
      · exact waiting a earlier
      · exact List.mem_singleton.mp last ▸ there
  · refine ⟨waiting, fun a given => ?_⟩
    split at given
    · simp at given
    · exact Option.some.inj given ▸ there

end Search

end PathQuery
