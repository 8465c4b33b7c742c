import PathQuery.Proofs.Search.Within
import PathQuery.Proofs.Tree.Editing

set_option autoImplicit false

namespace PathQuery.Tree

variable {t t' : Tree} {id : Nat}

structure Closed (t : Tree) : Prop where
  root : t.has root = true
  parent : ∀ id parent, t.parent? id = some parent → t.has parent = true
  child : ∀ id child, child ∈ t.children id → t.has child = true

theorem Built.has_root (built : Built t) : t.has root = true := by
  induction built with
  | new name => rfl
  | add _ added ih => exact (Edit.keeps (e := .add _ _) added).has root ih
  | link _ linked ih => exact (Edit.keeps (e := .link _ _) linked).has root ih
  | setParent _ changed ih => exact (Edit.keeps (e := .setParent _ _) changed).has root ih

theorem Built.has_child {child : Nat} (built : Built t) (linked : child ∈ t.children id) :
    t.has child = true := by
  induction built with
  | new name => cases id <;> simp [Tree.new, children] at linked
  | @add t t' parent name _ added ih =>
    obtain ⟨there, rfl⟩ := of_add? added
    rw [children_addChild there] at linked
    split_ifs at linked
    · rcases List.mem_append.mp linked with earlier | last
      · exact has_addChild there (ih earlier) name
      · exact List.mem_singleton.mp last ▸ has_size_addChild there name
    · exact has_addChild there (ih linked) name
  | @link t t' parent other _ linked' ih =>
    obtain ⟨there, there', rfl⟩ := of_link? linked'
    rw [has_addLink]
    rw [children_addLink there] at linked
    split_ifs at linked
    · rcases List.mem_append.mp linked with earlier | last
      · exact ih earlier
      · exact List.mem_singleton.mp last ▸ there'
    · exact ih linked
  | setParent _ changed ih =>
    rw [has_setParent changed]
    rw [children_setParent changed] at linked
    exact ih linked

theorem Built.closed (built : Built t) : Closed t where
  root := built.has_root
  parent _ _ linked := built.has_parent linked
  child _ _ linked := built.has_child linked

-- The tree with other nodes behind its own.
def followedBy (t : Tree) (more : Array Node) : Tree := ⟨t.nodes ++ more⟩

section FollowedBy

variable (more : Array Node)

theorem nodes_followedBy (there : t.has id = true) : (t.followedBy more).nodes[id]? = t.nodes[id]? :=
  Array.getElem?_append_left (has_iff.mp there)

theorem has_followedBy (there : t.has id = true) : (t.followedBy more).has id = true := by
  rw [has_iff, size, followedBy, Array.size_append]
  exact Nat.lt_add_right _ (has_iff.mp there)

theorem name_followedBy (there : t.has id = true) : (t.followedBy more).name id = t.name id := by
  rw [name, nodes_followedBy more there, name]

theorem parent?_followedBy (there : t.has id = true) :
    (t.followedBy more).parent? id = t.parent? id := by
  rw [parent?, nodes_followedBy more there, parent?]

theorem children_followedBy (there : t.has id = true) :
    (t.followedBy more).children id = t.children id := by
  rw [children, nodes_followedBy more there, children]

theorem Closed.lineageFrom_followedBy (closed : Closed t) (there : t.has id = true)
    (seen : List Nat) :
    (t.followedBy more).lineageFrom seen id = t.lineageFrom seen id ∧
      ∀ other ∈ t.lineageFrom seen id, t.has other = true := by
  fun_induction t.lineageFrom seen id with
  | case1 seen id stays ih =>
    rw [lineageFrom, dif_pos ⟨has_followedBy more there, stays.2⟩, parent?_followedBy more there]
    cases linked : t.parent? id with
    | none => exact ⟨rfl, by simpa using there⟩
    | some parent =>
      obtain ⟨same, inside⟩ := ih parent (closed.parent id parent linked)
      exact ⟨congrArg (id :: ·) same, List.forall_mem_cons.mpr ⟨there, inside⟩⟩
  | case2 seen id stops =>
    rw [lineageFrom, dif_neg fun stays => stops ⟨there, stays.2⟩]
    exact ⟨rfl, by simp⟩

theorem Closed.segments_followedBy (closed : Closed t) (there : t.has id = true) :
    (t.followedBy more).segments id = t.segments id := by
  obtain ⟨same, inside⟩ := closed.lineageFrom_followedBy more there []
  have named : (t.lineage id).map (t.followedBy more).name = (t.lineage id).map t.name :=
    List.map_congr_left fun other member => name_followedBy more (inside other member)
  rw [segments, lineage, same, ← lineage, named, segments]

theorem Closed.shared (closed : Closed t) (q : Query) :
    Shared (fun id => t.has id = true) t.graph (t.followedBy more).graph (q.matchesNode t)
      (q.matchesNode (t.followedBy more)) where
  closed id _ := closed.child id
  children _ there := children_followedBy more there
  accepts id there := by
    rw [Query.matchesNode, closed.segments_followedBy more there, Query.matchesNode]

theorem Closed.path_followedBy (closed : Closed t) (there : t.has id = true) :
    (t.followedBy more).path id = t.path id := by
  rw [path, closed.segments_followedBy more there, path]

theorem Closed.take_followedBy (closed : Closed t) (q : Query) {start : Nat}
    {frontier : Frontier Nat} (limit : Nat) (there : t.has start = true)
    (waiting : ∀ id ∈ frontier.pending, t.has id = true) :
    q.take (t.followedBy more) limit (q.search start frontier) =
        q.take t limit (q.search start frontier) ∧
      ∀ id ∈ (q.take t limit (q.search start frontier)).1, t.has id = true := by
  have within : Search.Within (fun id => t.has id = true) (q.search start frontier) := by
    refine Search.begin_within ?_ waiting _
    exact there
  exact Search.take_within (closed.shared more q) limit within

end FollowedBy

section Answers

variable {e : Edit} {answer : Except Fault Answer}

/-- An edit either says that it is done or leaves the tree alone, and it is never a fault. -/
theorem Edit.unchanged_of_run (ran : e.run t = (answer, t')) :
    (∀ id, answer ≠ .error (.outOfRange id)) ∧ (answer ≠ .ok (e.success t) → t' = t) := by
  rw [run_eq] at ran
  cases applied : e.result? t with
  | none =>
    obtain ⟨rfl, rfl⟩ : e.failure = answer ∧ t = t' := by simpa [applied] using ran
    exact ⟨fun id => by cases e <;> simp [failure], fun _ => rfl⟩
  | some after =>
    obtain ⟨rfl, rfl⟩ : .ok (e.success t) = answer ∧ after = t' := by simpa [applied] using ran
    exact ⟨by simp, fun other => absurd rfl other⟩

theorem Edit.mem_children_of_run_add {parent : Nat} {name : String}
    (ran : (Edit.add parent name).run t = (.ok (.added id), t')) : id ∈ t'.children parent := by
  rw [run_eq] at ran
  cases applied : (Edit.add parent name).result? t with
  | none => simp [applied, failure] at ran
  | some after =>
    obtain ⟨rfl, rfl⟩ : t.size = id ∧ after = t' := by simpa [applied, success] using ran
    obtain ⟨there, rfl⟩ := of_add? applied
    rw [children_addChild there, if_pos rfl]
    exact List.mem_append_right _ (List.mem_singleton.mpr rfl)

end Answers

/-- Whatever edits a tree has gone through, done or not, all that it points to is there, its root is
the node that it began with, and nothing that is read from a node on the way up or in a search lies
beyond its last one. An edit never writes to a node that is not there and changes nothing unless it
is done, and what is added below a node stays among its children. -/
theorem edited_is_closed (name : String) (edits : List Edit) :
    let t := (new name).edited edits
    (Closed t ∧ t.name root = name) ∧
    (∀ more id, t.has id = true → (t.followedBy more).name id = t.name id ∧
      (t.followedBy more).parent? id = t.parent? id ∧
      (t.followedBy more).children id = t.children id ∧ (t.followedBy more).path id = t.path id) ∧
    (∀ more (q : Query) start frontier limit,
      t.has start = true → (∀ id ∈ frontier.pending, t.has id = true) →
        q.take (t.followedBy more) limit (q.search start frontier) =
          q.take t limit (q.search start frontier) ∧
        ∀ id ∈ (q.take t limit (q.search start frontier)).1, t.has id = true) ∧
    (∀ (e : Edit) answer t', e.run t = (answer, t') → (∀ id, answer ≠ .error (.outOfRange id)) ∧
      (answer ≠ .ok (e.success t) → t' = t)) ∧
    ∀ parent child id t' later, (Edit.add parent child).run t = (.ok (.added id), t') →
      id ∈ (t'.edited later).children parent := by
  intro t
  have built : Built t := built_edited (.new name) edits
  have closed : Closed t := built.closed
  refine ⟨⟨closed, ?_⟩, ?_, ?_, ?_, ?_⟩
  · exact (keeps_edited (new name) edits).name root rfl
  · intro more id there
    exact ⟨name_followedBy more there, parent?_followedBy more there,
      children_followedBy more there, closed.path_followedBy more there⟩
  · intro more q start frontier limit there waiting
    exact closed.take_followedBy more q limit there waiting
  · intro e answer t' ran
    exact e.unchanged_of_run ran
  · intro parent child id t' later ran
    exact (keeps_edited t' later).child parent id (Edit.mem_children_of_run_add ran)

end PathQuery.Tree
