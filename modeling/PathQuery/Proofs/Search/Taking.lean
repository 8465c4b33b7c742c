import Mathlib.Data.List.Perm.Subperm
import PathQuery.Proofs.Document.ValueForest
import PathQuery.Proofs.Search.Results

set_option autoImplicit false

namespace PathQuery

namespace Search

variable {α : Type} [DecidableEq α] {g : Graph α} {accepts : α → Bool}

theorem Drains.take_eq {s last : Search α} {found : List α} (drains : Drains g accepts s found last)
    (limit : Nat) : (s.take g accepts limit).1 = found.take limit := by
  induction drains generalizing limit with
  | done stops => cases limit <;> simp [take, stops]
  | more gives _ ih => cases limit <;> simp [take, gives, ih]

end Search

namespace Tree

variable {t : Tree} {id other : Nat}

theorem Grown.has_child (grown : Grown t) (child : other ∈ t.children id) : t.has other = true := by
  apply Decidable.byContradiction
  intro outside
  have unlinked : t.parent? other = none :=
    parent?_of_size_le (Nat.le_of_not_lt fun inside => outside (has_iff.mpr inside))
  have absent : (t.children id).count other = 0 := by
    rw [grown.count_children, unlinked]
    rfl
  exact List.count_eq_zero.mp absent child

theorem Grown.has_of_leads (grown : Grown t) (there : t.has id = true) {barred : List Nat}
    (walk : t.graph.Leads barred id other) : t.has other = true := by
  induction walk with
  | start _ => exact there
  | link _ child _ _ => exact grown.has_child child

theorem length_le_size {found : List Nat} (nodup : found.Nodup)
    (there : ∀ id ∈ found, t.has id = true) : found.length ≤ t.size := by
  have inside : found ⊆ List.range t.size := fun id member =>
    List.mem_range.mpr (has_iff.mp (there id member))
  simpa using (List.Nodup.subperm nodup inside).length_le

theorem grown_ofValue (v : Value) : Grown (ofValue v) := by
  rw [ofValue_eq_plant]
  exact (Grown.new "").plant rfl v.forest

theorem Grown.search_drains (grown : Grown t) (q : Query) :
    ∃ found last, Search.Drains t.graph (q.matchesNode t) (q.search root .empty) found last ∧
      found.length ≤ t.size := by
  by_cases bare : q.steps = []
  · have alone : q.search root .empty = ⟨.empty, false, some root⟩ := by
      simp [Query.search, Search.begin, bare, Frontier.isVisited, Frontier.empty]
    refine ⟨[root], _, .more (by rw [alone]; rfl) (.done rfl), ?_⟩
    exact has_iff.mp grown.root_there
  · obtain ⟨found, last, drains, complete⟩ := Search.drains_complete t.graph (q.matchesNode t)
      (Frontier.empty.push root).2
    rw [← Query.search_of_steps bare] at drains
    refine ⟨found, _, drains, length_le_size complete.nodup fun id member => ?_⟩
    have covers := ((complete.mem_found id).mp member).2
    obtain ⟨start, waits, walk⟩ := (Frontier.covers_push _ _ _ _).mp covers
    obtain rfl : start = root := by simpa [Frontier.empty] using waits
    exact grown.has_of_leads grown.root_there walk

end Tree

end PathQuery
