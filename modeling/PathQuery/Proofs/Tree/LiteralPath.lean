import PathQuery.Proofs.Query.PlainPath
import PathQuery.Proofs.Tree.Printed

set_option autoImplicit false

namespace PathQuery.Tree

open Search

variable {t : Tree} {id : Nat} {q : Query}

theorem matchesNode_literal_path (compiled : Query.compile .literal false (t.path id) = .ok q)
    (plain : ∀ name ∈ t.segments id, '/' ∉ name.toList ∧ name ∉ directiveNames) (other : Nat) :
    q.matchesNode t other = true ↔ t.segments other = t.segments id := by
  have names : pathNames (t.path id) = t.segments id :=
    pathNames_path_eq_iff.mpr fun name member => (plain name member).1
  rw [Query.matchesNode, Query.literal_isMatch_iff compiled, names]
  intro name member
  rw [names] at member
  exact (plain name member).2

/-- The printed path of a node, as a literal query, finds the nodes that can be reached from the root
and have the same names on their way down. Only its size has such a query refused. -/
theorem literal_path_finds_namesakes (t : Tree) (id : Nat)
    (plain : ∀ name ∈ t.segments id, '/' ∉ name.toList ∧ name ∉ [".", "..", "*", "**"]) :
    (∃ q found last, Query.compile .literal false (t.path id) = .ok q ∧
      Drains t.graph (q.matchesNode t) (q.search root .empty) found last ∧ found.Nodup ∧
      ∀ other, other ∈ found ↔ t.graph.Leads [] root other ∧ t.segments other = t.segments id) ∨
    ∃ segment index offset, Query.compile .literal false (t.path id) =
      .error (.malformedPattern segment index offset .tooBig) := by
  rcases (byCharacter_literal false).compile_query (t.path id) with
    ⟨q, compiled⟩ | refused
  · left
    have steps : q.steps ≠ [] := Query.steps_ne_nil compiled (by simp [path, pathText])
    obtain ⟨found, last, drains, complete⟩ := drains_complete t.graph (q.matchesNode t)
      (Frontier.empty.push root).2
    rw [← Query.search_of_steps steps] at drains
    refine ⟨q, found, _, compiled, drains, complete.nodup, fun other => ?_⟩
    rw [complete.mem_found, matchesNode_literal_path compiled plain, Frontier.covers_push, and_comm]
    simp [Frontier.empty]
  · exact .inr refused

theorem literal_path_finds_namesakes_around_loop :
    ∃ (t : Tree) (q : Query) (found : List Nat) (last : Search Nat),
      t.parent? 1 = some 3 ∧ t.parent? 3 = some 1 ∧ t.children 3 = [0] ∧ t.path 3 = "/a+" ∧
      Query.compile .literal false (t.path 3) = .ok q ∧
      Drains t.graph (q.matchesNode t) (q.search root .empty) found last ∧ 2 ∈ found ∧ 3 ∈ found := by
  let t : Tree := ⟨#[⟨"", none, [1, 2]⟩, ⟨"", some 3, [3]⟩, ⟨"a+", some 0, []⟩, ⟨"a+", some 1, [0]⟩]⟩
  have names : t.segments 3 = ["a+"] := by cbv
  have names' : t.segments 2 = t.segments 3 := by cbv
  have path : t.path 3 = "/a+" := by cbv
  have small : (Query.compile .literal false "/a+").isOk = true := by cbv
  rcases literal_path_finds_namesakes t 3 (by simp [names]) with
    ⟨q, found, last, compiled, drains, _, mem_found⟩ | ⟨segment, index, offset, refused⟩
  · have start : t.graph.Leads [] root 0 := .start List.not_mem_nil
    have first : t.graph.Leads [] root 1 := start.link (by decide) List.not_mem_nil
    have second : t.graph.Leads [] root 2 := start.link (by decide) List.not_mem_nil
    have third : t.graph.Leads [] root 3 := first.link (by decide) List.not_mem_nil
    exact ⟨t, q, found, last, rfl, rfl, rfl, path, compiled, drains,
      (mem_found 2).mpr ⟨second, names'⟩, (mem_found 3).mpr ⟨third, rfl⟩⟩
  · rw [path] at refused
    simp [refused, Except.isOk, Except.toBool] at small

end PathQuery.Tree
