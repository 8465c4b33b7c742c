import PathQuery.Load.Document
import PathQuery.Proofs.Path.ReadBack
import PathQuery.Proofs.Query.Slash
import PathQuery.Proofs.Search.Results

set_option autoImplicit false

namespace PathQuery.Tree

def Unslashed (t : Tree) (id : Nat) : Prop := ∀ name ∈ t.segments id, '/' ∉ name.toList

/-- Queries judge the printed path as they judge the node. -/
def PathMatches (t : Tree) (id : Nat) : Prop :=
  ∀ dialect ignoreCase source q, Query.compile dialect ignoreCase source = .ok q →
    q.isMatch (pathNames (t.path id)) = q.matchesNode t id

/-- Queries that find the node match its printed path. -/
def PathFound (t : Tree) (id : Nat) : Prop :=
  ∀ dialect ignoreCase source q, Query.compile dialect ignoreCase source = .ok q → q.steps ≠ [] →
    ∀ start frontier found last,
      Search.Drains t.graph (q.matchesNode t) (q.search start frontier) found last →
      id ∈ found → q.isMatch (pathNames (t.path id)) = true

/-- The printed path leads to a node with the same names. -/
def PathLeadsBack (t : Tree) (id : Nat) : Prop :=
  ∃ other, t.findPath? (t.path id) = some other ∧ t.segments other = t.segments id

variable {t : Tree} {id : Nat}

theorem pathNames_path_eq_iff : pathNames (t.path id) = t.segments id ↔ t.Unslashed id := by
  refine pathNames_pathText_eq_iff fun name member => ?_
  simpa using (List.mem_filter.mp (List.mem_reverse.mp member)).2

theorem findPath?_eq_some {path : String} {other : Nat} (found : t.findPath? path = some other) :
    t.segments other = pathNames path := by
  simpa using List.find?_some found

theorem pathLeadsBack_iff (there : t.has id = true) : t.PathLeadsBack id ↔ t.Unslashed id := by
  rw [← pathNames_path_eq_iff]
  constructor
  · rintro ⟨other, found, same⟩
    exact (findPath?_eq_some found).symm.trans same
  · intro same
    have member : id ∈ List.range t.size := by simpa [has] using there
    have some : (t.findPath? (t.path id)).isSome := by
      refine List.find?_isSome.mpr ⟨id, member, ?_⟩
      simp [same]
    obtain ⟨other, found⟩ := Option.isSome_iff_exists.mp some
    exact ⟨other, found, (findPath?_eq_some found).trans same⟩

theorem slashQuery_misses_path : slashQuery.isMatch (pathNames (t.path id)) = false := by
  refine Bool.eq_false_iff.mpr fun matched => ?_
  obtain ⟨name, member, slash⟩ := (slashQuery_isMatch _).mp matched
  exact slash_not_mem_of_mem_pathNames member slash

theorem unslashed_of_not_matchesNode (missed : slashQuery.matchesNode t id = false) :
    t.Unslashed id := by
  intro name member slash
  have matched : slashQuery.matchesNode t id = true :=
    (slashQuery_isMatch (t.segments id)).mpr ⟨name, member, slash⟩
  exact absurd (matched.symm.trans missed) (by simp)

theorem pathMatches_iff : t.PathMatches id ↔ t.Unslashed id := by
  constructor
  · intro matched
    have same := matched .grep false _ _ compile_slashQuery
    exact unslashed_of_not_matchesNode (same.symm.trans slashQuery_misses_path)
  · intro plain dialect ignoreCase source q _
    rw [pathNames_path_eq_iff.mpr plain]
    rfl

theorem pathFound_iff : t.PathFound id ↔ t.Unslashed id := by
  constructor
  · intro found
    -- A search that starts at the node comes to it first.
    obtain ⟨nodes, last, drains, complete⟩ := Search.drains_complete t.graph
      (slashQuery.matchesNode t) (Frontier.empty.push id).2
    have covers : (Frontier.empty.push id).2.Covers t.graph id :=
      (Frontier.covers_push _ _ _ _).mpr ⟨id, List.mem_cons_self, .start List.not_mem_nil⟩
    have steps : slashQuery.steps ≠ [] := by simp [slashQuery]
    refine unslashed_of_not_matchesNode (Bool.eq_false_iff.mpr fun matched => ?_)
    have given : id ∈ nodes := (complete.mem_found id).mpr ⟨matched, covers⟩
    rw [← Query.search_of_steps steps] at drains
    have matched' := found .grep false _ _ compile_slashQuery steps id _ nodes _ drains given
    exact absurd (matched'.symm.trans slashQuery_misses_path) (by simp)
  · intro plain dialect ignoreCase source q compiled steps start f found last drains given
    rw [pathMatches_iff.mpr plain dialect ignoreCase source q compiled]
    rw [Query.search_of_steps steps] at drains
    exact drains.accepted rfl id given

/-- A printed path stands for its node exactly where no name of it has a slash: to queries that are
given the path or the node, to queries that find the node, and to a look-up of the path. -/
theorem path_denotes_iff_unslashed (t : Tree) (id : Nat) (there : t.has id = true) :
    (t.PathMatches id ↔ t.Unslashed id) ∧ (t.PathFound id ↔ t.Unslashed id) ∧
      (t.PathLeadsBack id ↔ t.Unslashed id) :=
  ⟨pathMatches_iff, pathFound_iff, pathLeadsBack_iff there⟩

theorem path_denotes_iff_unslashed_plain_name :
    ∃ t, (new "").add? 0 "a" = some t ∧ t.has 1 = true ∧
      t.PathMatches 1 ∧ t.PathFound 1 ∧ t.PathLeadsBack 1 := by
  let t : Tree := ⟨#[⟨"", none, [1]⟩, ⟨"a", some 0, []⟩]⟩
  have denotes := path_denotes_iff_unslashed t 1 rfl
  have names : t.segments 1 = ["a"] := by cbv
  have plain : t.Unslashed 1 := by simp [Unslashed, names]
  exact ⟨t, rfl, rfl, denotes.1.mpr plain, denotes.2.1.mpr plain, denotes.2.2.mpr plain⟩

/-- A key with a slash, in a document or added by hand, gives a node that its path does not stand
for. The path has two names, and there is no such node. -/
theorem path_of_slashed_key :
    ∃ t q, ofJson "\x7b\"a/b\": null\x7d" = .ok t ∧ (new "").add? 0 "a/b" = some t ∧
      Query.compile .glob false "*" = .ok q ∧
      t.path 1 = "/a/b" ∧ t.findPath? (t.path 1) = none ∧
      q.matchesNode t 1 = true ∧ q.isMatch (pathNames (t.path 1)) = false := by
  refine ⟨⟨#[⟨"", none, [1]⟩, ⟨"a/b", some 0, []⟩]⟩, ⟨"*", .glob, false, [.childOf]⟩, ?_⟩
  refine ⟨?_, rfl, ?_, ?_, ?_, ?_, ?_⟩ <;> cbv

end PathQuery.Tree
