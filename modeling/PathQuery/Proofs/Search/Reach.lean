import PathQuery.Search.Basic

set_option autoImplicit false

namespace PathQuery

variable {α : Type}

inductive Graph.Leads (g : Graph α) (barred : List α) : α → α → Prop where
  | start {a : α} (free : a ∉ barred) : g.Leads barred a a
  | link {a b c : α} (walk : g.Leads barred a b) (child : c ∈ g.children b) (free : c ∉ barred) :
      g.Leads barred a c

namespace Graph.Leads

variable {g : Graph α} {barred : List α} {a b c : α}

theorem start_free (walk : g.Leads barred a b) : a ∉ barred := by
  induction walk with
  | start free => exact free
  | link _ _ _ ih => exact ih

theorem end_free (walk : g.Leads barred a b) : b ∉ barred := by
  cases walk with
  | start free => exact free
  | link _ _ free => exact free

theorem trans (first : g.Leads barred a b) (second : g.Leads barred b c) : g.Leads barred a c := by
  induction second with
  | start _ => exact first
  | link _ child free ih => exact ih.link child free

theorem mono {more : List α} (walk : g.Leads more a b) (fewer : barred ⊆ more) :
    g.Leads barred a b := by
  induction walk with
  | start free => exact .start fun member => free (fewer member)
  | link _ child free ih => exact ih.link child fun member => free (fewer member)

end Graph.Leads

namespace Frontier

variable {g : Graph α} {f next : Frontier α} {a b : α}

/-- The nodes that the search is still to visit: those to which something that waits leads past all
that was visited. -/
def Covers (g : Graph α) (f : Frontier α) (b : α) : Prop :=
  ∃ a ∈ f.pending, g.Leads f.visited a b

theorem Covers.fresh (covers : f.Covers g b) : b ∉ f.visited := by
  obtain ⟨_, _, walk⟩ := covers
  exact walk.end_free

variable [DecidableEq α]

theorem stale_of_visit?_eq_none (idle : Search.visit? g f = none) : ∀ a ∈ f.pending, a ∈ f.visited := by
  cases popped : nextFresh? f.visited f.pending with
  | none => exact nextFresh?_eq_none.mp popped
  | some found => simp [Search.visit?, pop, popped] at idle

theorem not_covers_of_visit?_eq_none (idle : Search.visit? g f = none) : ¬f.Covers g b := by
  rintro ⟨a, waits, walk⟩
  exact walk.start_free (stale_of_visit?_eq_none idle a waits)

theorem mem_pending_of_visit {rest : List α} :
    b ∈ ((Frontier.mk rest (a :: f.visited)).pushAll (g.children a)).pending ↔
      b ∈ rest ∨ b ∈ g.children a ∧ b ∉ a :: f.visited := by
  simp [pushAll, isVisited]

-- Nothing gets out of reach but the node that is visited, and nothing new comes in.
theorem covers_iff_of_visit (visits : Search.visit? g f = some (a, next)) :
    f.Covers g b ↔ b = a ∨ next.Covers g b := by
  obtain ⟨rest, popped, rfl⟩ := Search.visit?_eq_some visits
  obtain ⟨fresh, skipped, split, stale⟩ := nextFresh?_some popped
  constructor
  · rintro ⟨c, waits, walk⟩
    induction walk with
    | start free =>
      rw [split, List.mem_append, List.mem_cons] at waits
      rcases waits with behind | rfl | ahead
      · exact absurd (stale c behind) free
      · exact .inl rfl
      · by_cases same : c = a
        · exact .inl same
        · refine .inr ⟨c, mem_pending_of_visit.mpr (.inl ahead), .start ?_⟩
          simp [pushAll, same, free]
    | @link d e _ child free ih =>
      by_cases same : e = a
      · exact .inl same
      · have free' : e ∉ a :: f.visited := by simp [same, free]
        rcases ih with rfl | ⟨c, waits, walk⟩
        · exact .inr ⟨e, mem_pending_of_visit.mpr (.inr ⟨child, free'⟩), .start free'⟩
        · exact .inr ⟨c, waits, walk.link child free'⟩
  · have waits : a ∈ f.pending := by simp [split]
    rintro (rfl | ⟨c, waits', walk⟩)
    · exact ⟨b, waits, .start fresh⟩
    · have walk' : g.Leads f.visited c b := walk.mono fun _ member => List.mem_cons_of_mem _ member
      rcases mem_pending_of_visit.mp waits' with ahead | ⟨child, _⟩
      · exact ⟨c, by simp [split, ahead], walk'⟩
      · exact ⟨a, waits, .trans (.link (.start fresh) child walk'.start_free) walk'⟩

theorem visited_of_visit (visits : Search.visit? g f = some (a, next)) :
    next.visited = a :: f.visited := by
  obtain ⟨rest, _, rfl⟩ := Search.visit?_eq_some visits
  rfl

-- Every frontier is empty for good after finitely many visits.
theorem visit_induction {motive : Frontier α → Prop} (g : Graph α)
    (idle : ∀ f, Search.visit? g f = none → motive f)
    (visit : ∀ f a next, Search.visit? g f = some (a, next) → motive next → motive f)
    (f : Frontier α) : motive f := by
  cases visits : Search.visit? g f with
  | none => exact idle f visits
  | some found => exact visit f found.1 found.2 visits (visit_induction g idle visit found.2)
termination_by (unvisited g.nodes f.visited, f.pending.length)
decreasing_by exact Search.visit?_decreases visits

end Frontier

end PathQuery
