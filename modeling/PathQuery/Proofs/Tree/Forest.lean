import PathQuery.Proofs.Tree.Grown

set_option autoImplicit false

namespace PathQuery

/-- Trees of names side by side: the name of the first tree, the forest below it, and the trees
beside it. -/
inductive Forest where
  | nil
  | node (name : String) (below beside : Forest)

namespace Forest

def leaf (name : String) : Forest := .node name .nil .nil

def size : Forest → Nat
  | .nil => 0
  | .node _ below beside => 1 + below.size + beside.size

def append : Forest → Forest → Forest
  | .nil, g => g
  | .node name below beside, g => .node name below (beside.append g)

end Forest

namespace Tree

/-- Unfolding some nodes of a tree along the lists of children gives the forest, and comes to nodes in
this order, to each of them before those below it. -/
inductive Unfolds (t : Tree) : List Nat → Forest → (order : List Nat) → Prop where
  | nil : Unfolds t [] .nil []
  | node {id : Nat} {ids order more : List Nat} {name : String} {below beside : Forest}
      (named : t.name id = name) (children : Unfolds t (t.children id) below order)
      (siblings : Unfolds t ids beside more) :
      Unfolds t (id :: ids) (.node name below beside) (id :: (order ++ more))

-- Adds a forest below a node, every tree of it from the top down before the one beside it.
def plant (t : Tree) (parent : Nat) : Forest → Tree
  | .nil => t
  | .node name below beside =>
      plant (plant (t.addChild parent name) t.size below) parent beside

variable {t : Tree} {parent id : Nat}

namespace Unfolds

variable {ids order : List Nat} {f : Forest}

theorem unique {g : Forest} {order' : List Nat} (first : t.Unfolds ids f order)
    (second : t.Unfolds ids g order') : f = g ∧ order = order' := by
  induction first generalizing g order' with
  | nil =>
    cases second
    exact ⟨rfl, rfl⟩
  | node named _ _ below beside =>
    cases second with
    | node named' children siblings =>
      obtain ⟨rfl, rfl⟩ := below children
      obtain ⟨rfl, rfl⟩ := beside siblings
      exact ⟨by rw [← named, named'], rfl⟩

theorem congr {t' : Tree} (unfolds : t.Unfolds ids f order)
    (same : ∀ id ∈ order, t'.name id = t.name id ∧ t'.children id = t.children id) :
    t'.Unfolds ids f order := by
  induction unfolds with
  | nil => exact .nil
  | @node id ids order more name below beside named _ _ ihBelow ihBeside =>
    obtain ⟨sameName, sameChildren⟩ := same id List.mem_cons_self
    have low := ihBelow fun other member =>
      same other (List.mem_cons_of_mem id (List.mem_append_left more member))
    have right := ihBeside fun other member =>
      same other (List.mem_cons_of_mem id (List.mem_append_right order member))
    rw [← sameChildren] at low
    exact .node (sameName.trans named) low right

end Unfolds

theorem plant_append (t : Tree) (parent : Nat) (f g : Forest) :
    t.plant parent (f.append g) = (t.plant parent f).plant parent g := by
  induction f generalizing t with
  | nil => rfl
  | node name below beside _ ih => exact ih _

theorem size_plant (there : t.has parent = true) (f : Forest) :
    (t.plant parent f).size = t.size + f.size := by
  induction f generalizing t parent with
  | nil => rfl
  | node name below beside ihBelow ihBeside =>
    have inside := has_iff.mp there
    have added : (t.addChild parent name).size = t.size + 1 := size_addChild there name
    have low := ihBelow (has_size_addChild there name)
    have above : (plant (t.addChild parent name) t.size below).has parent = true :=
      has_iff.mpr (by omega)
    rw [plant, ihBeside above, low, added, Forest.size]
    omega

theorem has_plant (there : t.has parent = true) (old : t.has id = true) (f : Forest) :
    (t.plant parent f).has id = true := by
  rw [has_iff, size_plant there]
  exact Nat.lt_add_right f.size (has_iff.mp old)

theorem has_plant_below (there : t.has parent = true) (name : String) (below : Forest) :
    ((t.addChild parent name).plant t.size below).has parent = true :=
  has_plant (has_size_addChild there name) (has_addChild there there name) below

theorem plant_keeps {P : Tree → Prop} (there : t.has parent = true) (holds : P t)
    (keeps : ∀ (t' : Tree) (p : Nat) (name : String), t.size ≤ t'.size → t'.has p = true →
      p = parent ∨ t.size ≤ p → P t' → P (t'.addChild p name))
    (f : Forest) : P (t.plant parent f) := by
  induction f generalizing t parent with
  | nil => exact holds
  | node name below beside ihBelow ihBeside =>
    have top := has_size_addChild there name
    have added : (t.addChild parent name).size = t.size + 1 := size_addChild there name
    have larger : t.size ≤ ((t.addChild parent name).plant t.size below).size := by
      rw [size_plant top, added]
      omega
    have first : P (t.addChild parent name) :=
      keeps t parent name (Nat.le_refl t.size) there (.inl rfl) holds
    have low : P ((t.addChild parent name).plant t.size below) :=
      ihBelow top first fun t' p name' older there' new => keeps t' p name' (by omega) there' (by omega)
    exact ihBeside (has_plant_below there name below) low
      fun t' p name' older there' new => keeps t' p name' (by omega) there' (by omega)

theorem Grown.plant (grown : Grown t) (there : t.has parent = true) (f : Forest) :
    Grown (t.plant parent f) := by
  apply plant_keeps there grown
  intro t' p name _ there' _ grown'
  exact grown'.addChild there' name

theorem name_plant (there : t.has parent = true) (old : t.has id = true) (f : Forest) :
    (t.plant parent f).name id = t.name id := by
  apply plant_keeps (P := fun t' => t'.name id = t.name id) there rfl
  intro t' p name larger there' _ same
  have inside : id < t.size := has_iff.mp old
  rw [name_addChild there', if_neg (by omega), same]

theorem children_plant (there : t.has parent = true) (old : t.has id = true) (other : id ≠ parent)
    (f : Forest) : (t.plant parent f).children id = t.children id := by
  apply plant_keeps (P := fun t' => t'.children id = t.children id) there rfl
  intro t' p name _ there' new same
  have inside : id < t.size := has_iff.mp old
  rw [children_addChild there', if_neg (by omega), same]

-- What is planted below another node leaves a part of the tree as it is.
theorem Unfolds.plant {ids order : List Nat} {f : Forest} (unfolds : t.Unfolds ids f order)
    (there : t.has parent = true) (apart : ∀ id ∈ order, t.has id = true ∧ id ≠ parent)
    (g : Forest) : (t.plant parent g).Unfolds ids f order := by
  apply unfolds.congr
  intro id member
  obtain ⟨old, other⟩ := apart id member
  exact ⟨name_plant there old g, children_plant there old other g⟩

theorem unfolds_plant (there : t.has parent = true) (f : Forest) :
    ∃ ids, (t.plant parent f).children parent = t.children parent ++ ids ∧
      (t.plant parent f).Unfolds ids f (List.range' t.size f.size) := by
  induction f generalizing t parent with
  | nil => exact ⟨[], (List.append_nil _).symm, .nil⟩
  | node name below beside ihBelow ihBeside =>
    have inside := has_iff.mp there
    have added : (t.addChild parent name).size = t.size + 1 := size_addChild there name
    have top := has_size_addChild there name
    have above := has_plant_below there name below
    have top' := has_plant top top below
    have size : ((t.addChild parent name).plant t.size below).size = t.size + 1 + below.size := by
      rw [size_plant top, added]
    obtain ⟨lower, childrenBelow, unfoldsBelow⟩ := ihBelow top
    obtain ⟨ids, childrenBeside, unfoldsBeside⟩ := ihBeside above
    rw [added] at unfoldsBelow
    rw [size] at unfoldsBeside
    have named : (t.plant parent (.node name below beside)).name t.size = name := by
      rw [plant, name_plant above top', name_plant top top, name_addChild there, if_pos rfl]
    have linked : (t.plant parent (.node name below beside)).children t.size = lower := by
      rw [plant, children_plant above top' (by omega), childrenBelow, children_addChild there,
        if_neg (by omega), children_of_size_le (Nat.le_refl t.size), List.nil_append]
    have children : (t.plant parent (.node name below beside)).Unfolds lower below
        (List.range' (t.size + 1) below.size) := by
      refine unfoldsBelow.plant above (fun id member => ?_) beside
      rw [List.mem_range'_1] at member
      exact ⟨has_iff.mpr (by omega), by omega⟩
    have order : List.range' t.size (1 + below.size + beside.size) =
        t.size :: (List.range' (t.size + 1) below.size ++
          List.range' (t.size + 1 + below.size) beside.size) := by
      rw [Nat.add_assoc, Nat.add_comm 1, List.range'_succ, List.range'_append_1]
    refine ⟨t.size :: ids, ?_, ?_⟩
    · rw [plant, childrenBeside, children_plant top (has_addChild there there name) (by omega),
        children_addChild there, if_pos rfl, List.append_assoc, List.singleton_append]
    · rw [← linked] at children
      rw [Forest.size, order]
      exact .node named children unfoldsBeside

end Tree

end PathQuery
