import Mathlib.Tactic.SplitIfs
import PathQuery.Document.Value
import PathQuery.Proofs.Search.Reach
import PathQuery.Tree.Search

set_option autoImplicit false

namespace PathQuery.Tree

variable {t : Tree} {parent id : Nat} {name : String}

theorem has_iff : t.has id = true ↔ id < t.size := by
  simp [has]

section AddChild

theorem nodes_addChild (there : t.has parent = true) (id : Nat) :
    (t.addChild parent name).nodes[id]? =
      if id = t.size then some ⟨name, some parent, []⟩
      else if id = parent then
        (t.nodes[id]?).map fun n => { n with children := n.children ++ [t.size] }
      else t.nodes[id]? := by
  have inside : parent < t.size := has_iff.mp there
  have added : t.addChild parent name =
      (Tree.mk (t.nodes.push ⟨name, some parent, []⟩)).addLink parent t.size := by
    simp [addChild, add?, there]
  have pushed : (t.nodes.push ⟨name, some parent, []⟩)[id]? =
      if id = t.size then some ⟨name, some parent, []⟩ else t.nodes[id]? := Array.getElem?_push
  rw [added, addLink, Array.getElem?_modify, pushed]
  by_cases fresh : id = t.size
  · rw [if_neg (by omega), if_pos fresh, if_pos fresh]
  · simp only [eq_comm (a := parent)]
    rw [if_neg fresh, if_neg fresh]

theorem size_addChild (there : t.has parent = true) (name : String) :
    (t.addChild parent name).size = t.size + 1 := by
  simp [addChild, add?, there, addLink, size]

theorem name_addChild (there : t.has parent = true) (id : Nat) :
    (t.addChild parent name).name id = if id = t.size then name else t.name id := by
  rw [Tree.name, nodes_addChild there, Tree.name]
  split_ifs
  · rfl
  · cases t.nodes[id]? <;> rfl
  · rfl

theorem parent?_addChild (there : t.has parent = true) (id : Nat) :
    (t.addChild parent name).parent? id = if id = t.size then some parent else t.parent? id := by
  rw [parent?, nodes_addChild there, parent?]
  split_ifs
  · rfl
  · cases t.nodes[id]? <;> rfl
  · rfl

theorem children_addChild (there : t.has parent = true) (id : Nat) :
    (t.addChild parent name).children id =
      if id = parent then t.children id ++ [t.size] else t.children id := by
  have inside : parent < t.size := has_iff.mp there
  rw [children, nodes_addChild there, children]
  by_cases fresh : id = t.size
  · have absent : t.nodes[id]? = none := Array.getElem?_eq_none (Nat.le_of_eq fresh.symm)
    rw [if_pos fresh, if_neg (by omega), absent]
    rfl
  · rw [if_neg fresh]
    split_ifs with here
    · have there' : id < t.nodes.size := here ▸ inside
      simp [there']
    · rfl

theorem has_addChild (there : t.has parent = true) (old : t.has id = true) (name : String) :
    (t.addChild parent name).has id = true := by
  rw [has_iff, size_addChild there]
  exact Nat.lt_succ_of_lt (has_iff.mp old)

theorem has_size_addChild (there : t.has parent = true) (name : String) :
    (t.addChild parent name).has t.size = true := by
  rw [has_iff, size_addChild there]
  exact Nat.lt_succ_self t.size

end AddChild

theorem children_of_size_le (outside : t.size ≤ id) : t.children id = [] := by
  simp [children, Array.getElem?_eq_none outside]

theorem parent?_of_size_le (outside : t.size ≤ id) : t.parent? id = none := by
  simp [parent?, Array.getElem?_eq_none outside]

/-- A node is among the children of its parent once and of no other node, and it comes after its
parent. Only the root has none. -/
structure Grown (t : Tree) : Prop where
  root_there : t.has root = true
  count_children : ∀ parent id,
    (t.children parent).count id = if t.parent? id = some parent then 1 else 0
  parent_lt : ∀ id parent, t.parent? id = some parent → parent < id
  parent_there : ∀ id, t.has id = true → id ≠ root → ∃ parent, t.parent? id = some parent

namespace Grown

theorem new (name : String) : Grown (new name) where
  root_there := rfl
  count_children parent id := by
    cases parent <;> cases id <;> simp [Tree.new, children, parent?]
  parent_lt id parent linked := by
    cases id <;> simp [Tree.new, parent?] at linked
  parent_there id there other := by
    have outside : id < 1 := has_iff.mp there
    simp only [root] at other
    omega

theorem addChild (grown : Grown t) (there : t.has parent = true) (name : String) :
    Grown (t.addChild parent name) where
  root_there := has_addChild there grown.root_there name
  count_children other id := by
    rw [children_addChild there, parent?_addChild there]
    by_cases fresh : id = t.size
    · subst fresh
      have unlinked : (t.children other).count t.size = 0 := by
        rw [grown.count_children, parent?_of_size_le (Nat.le_refl t.size)]
        rfl
      rw [if_pos rfl]
      by_cases here : other = parent
      · subst here
        simp [List.count_append, unlinked]
      · rw [if_neg here, unlinked, if_neg fun same => here (Option.some.inj same).symm]
    · rw [if_neg fresh, ← grown.count_children other id]
      split_ifs
      · simp [List.count_append, Ne.symm fresh]
      · rfl
  parent_lt id other linked := by
    rw [parent?_addChild there] at linked
    split_ifs at linked with fresh
    · obtain rfl := Option.some.inj linked
      exact fresh ▸ has_iff.mp there
    · exact grown.parent_lt id other linked
  parent_there id there' other := by
    rw [parent?_addChild there]
    rw [has_iff, size_addChild there] at there'
    split_ifs with fresh
    · exact ⟨parent, rfl⟩
    · exact grown.parent_there id (has_iff.mpr (by omega)) other

theorem leads (grown : Grown t) {id : Nat} (there : t.has id = true) :
    t.graph.Leads [] root id := by
  induction id using Nat.strongRecOn with
  | ind id ih =>
    by_cases top : id = root
    · subst top
      exact .start List.not_mem_nil
    · obtain ⟨parent, linked⟩ := grown.parent_there id there top
      have less : parent < id := grown.parent_lt id parent linked
      have once : (t.children parent).count id = 1 := by
        rw [grown.count_children, if_pos linked]
      have child : id ∈ t.graph.children parent :=
        List.count_pos_iff.mp (Nat.lt_of_lt_of_eq Nat.one_pos once.symm)
      have above : t.has parent = true := has_iff.mpr (Nat.lt_trans less (has_iff.mp there))
      exact (ih parent less above).link child List.not_mem_nil

end Grown

end PathQuery.Tree
