import PathQuery.Proofs.Tree.Lineage

/-!
Edits of a tree in place, as writes one after the other. What was written before an edit ends early
stays written, and a write to a node that is not there is a fault. Still, an edit that is not done
leaves the tree as it was, and a node stays a child of the one that it was added to.
-/

set_option autoImplicit false

namespace PathQuery.Tree

inductive Fault where
  | noParent (id : Nat)
  | outOfRange (id : Nat)
deriving DecidableEq, Repr

abbrev Editing (α : Type) := ExceptT Fault (StateM Tree) α

namespace Editing

variable {α : Type}

def perform (edit : Editing α) (t : Tree) : Except Fault α × Tree := (ExceptT.run edit).run t

def change (id : Nat) (f : Node → Node) : Editing Unit := do
  if (← get).has id then modify fun t => ⟨t.nodes.modify id f⟩ else throw (.outOfRange id)

def addChild (parent : Nat) (name : String) : Editing Nat := do
  let t ← get
  if t.has parent then
    set (Tree.mk (t.nodes.push ⟨name, some parent, []⟩))
    change parent fun n => { n with children := n.children ++ [t.size] }
    return t.size
  else throw (.noParent parent)

def link (parent child : Nat) : Editing Bool := do
  let t ← get
  if t.has parent && t.has child then
    change parent fun n => { n with children := n.children ++ [child] }
    return true
  else return false

def setParent (id : Nat) (parent : Option Nat) : Editing Bool := do
  let t ← get
  if t.has id && parent.all t.has then
    change id fun n => { n with parent }
    return true
  else return false

end Editing

inductive Edit where
  | add (parent : Nat) (name : String)
  | link (parent child : Nat)
  | setParent (id : Nat) (parent : Option Nat)
deriving DecidableEq, Repr

inductive Answer where
  | added (id : Nat)
  | changed (done : Bool)
deriving DecidableEq, Repr

namespace Edit

def run (e : Edit) (t : Tree) : Except Fault Answer × Tree :=
  match e with
  | add parent name => ((Editing.addChild parent name).perform t).map (.map .added) id
  | link parent child => ((Editing.link parent child).perform t).map (.map .changed) id
  | setParent id parent => ((Editing.setParent id parent).perform t).map (.map .changed) fun t => t

-- The tree behind an edit, if the edit can be done.
def result? (t : Tree) : Edit → Option Tree
  | add parent name => t.add? parent name
  | link parent child => t.link? parent child
  | setParent id parent => t.setParent? id parent

def success (t : Tree) : Edit → Answer
  | add _ _ => .added t.size
  | link _ _ | setParent _ _ => .changed true

def failure : Edit → Except Fault Answer
  | add parent _ => .error (.noParent parent)
  | link _ _ | setParent _ _ => .ok (.changed false)

end Edit

def edited (t : Tree) (edits : List Edit) : Tree := edits.foldl (fun t e => (e.run t).2) t

section Perform

variable {α : Type} {t : Tree} {parent id : Nat}

@[simp] theorem perform_pure (a : α) : (pure a : Editing α).perform t = (.ok a, t) := rfl

@[simp] theorem perform_throw (e : Fault) :
    (throw e : Editing α).perform t = (.error e, t) := rfl

@[simp] theorem perform_get_bind (next : Tree → Editing α) :
    (get >>= next).perform t = (next t).perform t := rfl

@[simp] theorem perform_set_bind (t' : Tree) (next : Unit → Editing α) :
    (set t' >>= next).perform t = (next ()).perform t' := rfl

theorem perform_change_bind (there : t.has id = true) (f : Node → Node) (next : Unit → Editing α) :
    (Editing.change id f >>= next).perform t = (next ()).perform ⟨t.nodes.modify id f⟩ := by
  change ((if t.has id then modify fun t => ⟨t.nodes.modify id f⟩
    else throw (.outOfRange id) : Editing Unit) >>= next).perform t = _
  rw [if_pos there]
  rfl

theorem perform_addChild (parent : Nat) (name : String) (t : Tree) :
    (Editing.addChild parent name).perform t =
      match t.add? parent name with
      | some t' => (.ok t.size, t')
      | none => (.error (.noParent parent), t) := by
  rw [Editing.addChild, perform_get_bind, add?]
  by_cases there : t.has parent = true
  · have there' : (Tree.mk (t.nodes.push ⟨name, some parent, []⟩)).has parent = true := by
      rw [has_iff, size, Array.size_push]
      exact Nat.lt_succ_of_lt (has_iff.mp there)
    rw [if_pos there, if_pos there, perform_set_bind, perform_change_bind there', perform_pure]
    rfl
  · rw [if_neg there, if_neg there, perform_throw]

theorem perform_link (parent child : Nat) (t : Tree) :
    (Editing.link parent child).perform t =
      match t.link? parent child with
      | some t' => (.ok true, t')
      | none => (.ok false, t) := by
  rw [Editing.link, perform_get_bind, link?]
  by_cases there : (t.has parent && t.has child) = true
  · have inside : t.has parent = true := (Bool.and_eq_true_iff.mp there).1
    rw [if_pos there, if_pos there, perform_change_bind inside, perform_pure]
    rfl
  · rw [if_neg there, if_neg there, perform_pure]

theorem perform_setParent (id : Nat) (parent : Option Nat) (t : Tree) :
    (Editing.setParent id parent).perform t =
      match t.setParent? id parent with
      | some t' => (.ok true, t')
      | none => (.ok false, t) := by
  rw [Editing.setParent, perform_get_bind, setParent?]
  by_cases there : (t.has id && parent.all t.has) = true
  · have inside : t.has id = true := (Bool.and_eq_true_iff.mp there).1
    rw [if_pos there, if_pos there, perform_change_bind inside, perform_pure]
  · rw [if_neg there, if_neg there, perform_pure]

/-- An edit is done in place just when the tree behind it is there, and otherwise nothing is. -/
theorem Edit.run_eq (e : Edit) (t : Tree) :
    e.run t = match e.result? t with
      | some t' => (.ok (e.success t), t')
      | none => (e.failure, t) := by
  cases e with
  | add parent name =>
    rw [run, perform_addChild, result?]
    cases t.add? parent name <;> rfl
  | link parent child =>
    rw [run, perform_link, result?]
    cases t.link? parent child <;> rfl
  | setParent id parent =>
    rw [run, perform_setParent, result?]
    cases t.setParent? id parent <;> rfl

end Perform

section Keeps

structure Keeps (t t' : Tree) : Prop where
  has : ∀ id, t.has id = true → t'.has id = true
  name : ∀ id, t.has id = true → t'.name id = t.name id
  child : ∀ id child, child ∈ t.children id → child ∈ t'.children id

theorem Keeps.refl (t : Tree) : Keeps t t where
  has _ there := there
  name _ _ := rfl
  child _ _ linked := linked

theorem Keeps.trans {t t' t'' : Tree} (first : Keeps t t') (second : Keeps t' t'') : Keeps t t'' where
  has id there := second.has id (first.has id there)
  name id there := (second.name id (first.has id there)).trans (first.name id there)
  child id child linked := second.child id child (first.child id child linked)

variable {t t' : Tree} {parent child id : Nat} {name : String}

theorem of_add? (added : t.add? parent name = some t') :
    t.has parent = true ∧ t' = t.addChild parent name := by
  have same : t' = t.addChild parent name := by simp [addChild, added]
  unfold add? at added
  split_ifs at added with there
  exact ⟨there, same⟩

theorem of_link? (linked : t.link? parent child = some t') :
    t.has parent = true ∧ t.has child = true ∧ t' = t.addLink parent child := by
  have same := addLink_of_link? linked
  unfold link? at linked
  split_ifs at linked with there
  exact ⟨(Bool.and_eq_true_iff.mp there).1, (Bool.and_eq_true_iff.mp there).2, same⟩

theorem children_addLink (there : t.has parent = true) (id : Nat) :
    (t.addLink parent child).children id =
      if id = parent then t.children id ++ [child] else t.children id := by
  simp only [children, addLink, Array.getElem?_modify, eq_comm (a := parent)]
  split_ifs with here
  · have inside : id < t.nodes.size := here ▸ has_iff.mp there
    simp [inside]
  · rfl

theorem children_setParent {above : Option Nat} (changed : t.setParent? id above = some t')
    (other : Nat) : t'.children other = t.children other := by
  rw [(of_setParent? changed).1]
  apply elim_modify
  intro n
  rfl

theorem Keeps.addChild (there : t.has parent = true) (name : String) :
    Keeps t (t.addChild parent name) where
  has _ old := has_addChild there old name
  name id old := by
    rw [name_addChild there, if_neg (Nat.ne_of_lt (has_iff.mp old))]
  child id child linked := by
    rw [children_addChild there]
    split_ifs
    · exact List.mem_append_left _ linked
    · exact linked

theorem Keeps.addLink (there : t.has parent = true) (child : Nat) :
    Keeps t (t.addLink parent child) where
  has id old := (has_addLink t parent child id).trans old
  name id _ := name_addLink t parent child id
  child id other linked := by
    rw [children_addLink there]
    split_ifs
    · exact List.mem_append_left _ linked
    · exact linked

theorem Keeps.setParent {above : Option Nat} (changed : t.setParent? id above = some t') :
    Keeps t t' where
  has other old := (has_setParent changed other).trans old
  name other _ := name_setParent changed other
  child other child linked := by rwa [children_setParent changed]

theorem Edit.keeps {e : Edit} (applied : e.result? t = some t') : Keeps t t' := by
  cases e with
  | add parent name =>
    obtain ⟨there, rfl⟩ := of_add? applied
    exact .addChild there name
  | link parent child =>
    obtain ⟨there, _, rfl⟩ := of_link? applied
    exact .addLink there child
  | setParent id parent => exact .setParent applied

theorem Edit.built {e : Edit} (built : Built t) (applied : e.result? t = some t') : Built t' := by
  cases e with
  | add parent name => exact built.add applied
  | link parent child => exact built.link applied
  | setParent id parent => exact built.setParent applied

-- An edit leads to the tree behind it or, if it cannot be done, to the tree itself.
theorem Edit.run_induction {motive : Tree → Prop} (e : Edit) (same : motive t)
    (done : ∀ t', e.result? t = some t' → motive t') : motive (e.run t).2 := by
  rw [run_eq]
  cases applied : e.result? t with
  | none => exact same
  | some t' => exact done t' applied

theorem keeps_edited (t : Tree) (edits : List Edit) : Keeps t (t.edited edits) := by
  induction edits generalizing t with
  | nil => exact .refl t
  | cons e rest ih => exact (e.run_induction (.refl t) fun _ => e.keeps).trans (ih _)

theorem built_edited (built : Built t) (edits : List Edit) : Built (t.edited edits) := by
  induction edits generalizing t with
  | nil => exact built
  | cons e rest ih => exact ih (e.run_induction built fun _ => e.built built)

end Keeps

end PathQuery.Tree
