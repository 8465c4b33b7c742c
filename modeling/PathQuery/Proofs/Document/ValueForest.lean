import PathQuery.Proofs.Tree.Forest

set_option autoImplicit false

namespace PathQuery

namespace Value

mutual

/-- The forest that a value stands for. A key has the forest of its value below it, and so has the
index of a container among the items of a sequence. Other items stand there by themselves. -/
def forest : Value → Forest
  | .null => .nil
  | .bool b => .leaf (if b then "true" else "false")
  | .integer n => .leaf (toString n)
  | .float x => .leaf x.text
  | .string s => .leaf s
  | .sequence items => itemsForest 0 items
  | .mapping entries => entriesForest entries

def entriesForest : List (String × Value) → Forest
  | [] => .nil
  | (key, value) :: rest => .node key value.forest (entriesForest rest)

def itemsForest (index : Nat) : List Value → Forest
  | [] => .nil
  | .sequence items :: rest =>
      .node (toString index) (itemsForest 0 items) (itemsForest (index + 1) rest)
  | .mapping entries :: rest =>
      .node (toString index) (entriesForest entries) (itemsForest (index + 1) rest)
  | item :: rest => item.forest.append (itemsForest (index + 1) rest)

end

end Value

namespace Tree

mutual

theorem addValue_eq_plant (t : Tree) (parent : Nat) (v : Value) :
    t.addValue parent v = t.plant parent v.forest := by
  cases v with
  | null => rfl
  | bool _ | integer _ | float _ | string _ => rfl
  | sequence items => exact addItems_eq_plant t parent 0 items
  | mapping entries => exact addEntries_eq_plant t parent entries

theorem addEntries_eq_plant (t : Tree) (parent : Nat) (entries : List (String × Value)) :
    t.addEntries parent entries = t.plant parent (Value.entriesForest entries) := by
  match entries with
  | [] => rfl
  | (key, value) :: rest =>
    rw [addEntries, addValue_eq_plant, addEntries_eq_plant, Value.entriesForest, plant]

theorem addItems_eq_plant (t : Tree) (parent index : Nat) (items : List Value) :
    t.addItems parent index items = t.plant parent (Value.itemsForest index items) := by
  match items with
  | [] => rfl
  | item :: rest =>
    have here := addValue_eq_plant t parent item
    have below := addValue_eq_plant (t.addChild parent (toString index)) t.size item
    rw [addItems, addItems_eq_plant]
    cases item with
    | sequence _ | mapping _ =>
      simp only [Value.isContainer, if_true, below]
      rfl
    | null | bool _ | integer _ | float _ | string _ =>
      simp only [Value.isContainer, Bool.false_eq_true, if_false, here]
      exact (plant_append t parent _ _).symm

end

theorem ofValue_eq_plant (v : Value) : ofValue v = (new "").plant root v.forest :=
  addValue_eq_plant (new "") root v

theorem ofValue_unfolds (v : Value) :
    (ofValue v).Unfolds [root] (.node "" v.forest .nil) (List.range (ofValue v).size) := by
  have there : (new "").has root = true := rfl
  obtain ⟨ids, children, unfolds⟩ := unfolds_plant there v.forest
  have linked : (ofValue v).children root = ids := by
    rw [ofValue_eq_plant, children]
    rfl
  have named : (ofValue v).name root = "" := by
    rw [ofValue_eq_plant, name_plant there there]
    rfl
  have size : (ofValue v).size = v.forest.size + 1 := by
    rw [ofValue_eq_plant, size_plant there, Nat.add_comm]
    rfl
  have order : List.range (ofValue v).size = root :: (List.range' 1 v.forest.size ++ []) := by
    rw [size, List.append_nil, List.range_eq_range', List.range'_succ]
    rfl
  rw [order]
  rw [← ofValue_eq_plant, ← linked] at unfolds
  exact .node named unfolds .nil

/-- The tree of a value can be unfolded in one way, which gives the forest of the value below a root
without a name and comes to the nodes in the order of their numbers. Each node stands once among the
children of its parent, which comes before it, and nowhere else, and all can be reached from the root. -/
theorem ofValue_is_forest (v : Value) :
    let t := ofValue v
    (∀ f order, t.Unfolds [root] f order ↔
      f = .node "" v.forest .nil ∧ order = List.range t.size) ∧
    (∀ parent id, (t.children parent).count id = if t.parent? id = some parent then 1 else 0) ∧
    (∀ id, t.has id = true → id ≠ root → ∃ parent < id, t.parent? id = some parent) ∧
    ∀ id, t.has id = true → t.graph.Leads [] root id := by
  have grown : Grown (ofValue v) := by
    rw [ofValue_eq_plant]
    exact (Grown.new "").plant rfl v.forest
  refine ⟨fun f order => ⟨fun unfolds => ?_, ?_⟩, grown.count_children, fun id there other => ?_,
    fun id there => grown.leads there⟩
  · exact unfolds.unique (ofValue_unfolds v)
  · rintro ⟨rfl, rfl⟩
    exact ofValue_unfolds v
  · obtain ⟨parent, linked⟩ := grown.parent_there id there other
    exact ⟨parent, grown.parent_lt id parent linked, linked⟩

-- An item that holds others gets its place for a name, however deep it stands.
example :
    (Value.mapping [("a", .sequence [.integer 7, .sequence [.null, .sequence [.bool true]],
        .mapping [("", .string "x")]]), ("b", .null)]).forest =
      .node "a"
        (.node "7" .nil
          (.node "1" (.node "1" (.leaf "true") .nil)
            (.node "2" (.node "" (.leaf "x") .nil) .nil)))
        (.node "b" .nil .nil) := rfl

end Tree

end PathQuery
