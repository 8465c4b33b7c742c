import PathQuery.Proofs.Alignment.Widening
import PathQuery.Proofs.Query.Glob
import PathQuery.Proofs.Query.PlainPath

set_option autoImplicit false

namespace PathQuery

namespace Unicode

theorem mem_of_orbitBetween? {index : Array (Char × Orbit)} {c : Char} {lo hi : Nat} {o : Orbit}
    (found : orbitBetween? index c lo hi = some o) : (c, o) ∈ index := by
  fun_induction orbitBetween? index c lo hi with
  | case1 => simp at found
  | case2 _ _ _ _ _ _ _ ih => exact ih found
  | case3 _ _ _ _ _ _ _ _ ih => exact ih found
  | case4 lo hi _ mid entry here above below =>
    obtain rfl : c = entry.1 := Char.le_antisymm (Char.not_lt.mp below) (Char.not_lt.mp above)
    obtain rfl : entry.2 = o := Option.some.inj found
    exact Array.mem_of_getElem? here
  | case5 => simp at found

theorem mem_of_mem_orbitIndex {c : Char} {o : Orbit} (member : (c, o) ∈ orbitIndex) : c ∈ o := by
  simp only [orbitIndex, List.mem_toArray, List.mem_mergeSort, List.mem_flatMap, List.mem_map,
    Prod.mk.injEq] at member
  obtain ⟨_, _, c', inside, rfl, rfl⟩ := member
  exact inside

theorem mem_asciiOrbit (c : Char) : c ∈ asciiOrbit c := by
  unfold asciiOrbit
  split_ifs with k s letter
  · rcases k with rfl | rfl <;> simp
  · rcases s with rfl | rfl <;> simp
  · by_cases lower : 'a'.val ≤ c.val ∧ c.val ≤ 'z'.val
    · have upper : ¬(c.val ≥ 'A'.val ∧ c.val ≤ 'Z'.val) := fun upper =>
        absurd (UInt32.le_trans lower.1 upper.2) (by decide)
      have same : c.toLower = c := dif_neg upper
      simp [same]
    · have same : c.toUpper = c := dif_neg lower
      simp [same]
  · exact List.mem_singleton_self c

theorem mem_orbit (c : Char) : c ∈ orbit c := by
  unfold orbit
  split_ifs
  · exact mem_asciiOrbit c
  · cases found : orbitBetween? orbitIndex c 0 orbitIndex.size with
    | none => exact List.mem_singleton_self c
    | some o => exact mem_of_mem_orbitIndex (mem_of_orbitBetween? found)

end Unicode

theorem SameChar.ignoreCase {c d : Char} (same : SameChar false c d) : SameChar true c d := by
  obtain rfl : c = d := same
  exact Unicode.mem_orbit c

theorem GlobMatches.ignoreCase {glob name : List Char} (matched : GlobMatches false glob name) :
    GlobMatches true glob name := by
  induction matched with
  | nil => exact .nil
  | run line _ ih => exact .run line ih
  | any line _ ih => exact .any line ih
  | same plain same _ ih => exact .same plain same.ignoreCase ih

namespace NamePattern

variable {ignoreCase : Bool} {dialect : Dialect} {segment : List Char} {p q : NamePattern}

theorem accepts_ignoreCase (simple : dialect = .glob ∨ dialect = .literal)
    (heeds : compile dialect false segment = .ok p) (ignores : compile dialect true segment = .ok q)
    (name : String) (accepted : p.accepts name = true) : q.accepts name = true := by
  rcases simple with rfl | rfl
  · rw [accepts_of_compile_glob heeds] at accepted
    rw [accepts_of_compile_glob ignores]
    exact accepted.ignoreCase
  · rw [accepts_of_compile_literal heeds] at accepted
    rw [accepts_of_compile_literal ignores]
    exact accepted.imp fun _ _ same => same.ignoreCase

end NamePattern

theorem stepOf_below {dialect : Dialect} (simple : dialect = .glob ∨ dialect = .literal)
    {segment : List Char} {s t : Step NamePattern} (heeds : stepOf dialect false segment = .ok s)
    (ignores : stepOf dialect true segment = .ok t) : Step.Below NamePattern.accepts s t := by
  rcases stepOf_eq_ok heeds with found | ⟨found, p, narrow, rfl⟩ <;>
    rcases stepOf_eq_ok ignores with found' | ⟨found', q, wide, rfl⟩
  · obtain rfl : s = t := Option.some.inj (found.symm.trans found')
    exact .refl s
  · simp [found] at found'
  · simp [found] at found'
  · exact .literal (NamePattern.accepts_ignoreCase simple narrow wide)

namespace Query

theorem steps_below {dialect : Dialect} (simple : dialect = .glob ∨ dialect = .literal)
    {source : String} {q q' : Query} (heeds : compile dialect false source = .ok q)
    (ignores : compile dialect true source = .ok q') :
    List.Forall₂ (Step.Below NamePattern.accepts) q.steps q'.steps := by
  have narrow := compileSegments_eq_ok_iff.mp (compileSegments_of_compile heeds)
  have wide := compileSegments_eq_ok_iff.mp (compileSegments_of_compile ignores)
  generalize querySegments source.toList = segments at narrow wide
  generalize q.steps = steps at narrow ⊢
  generalize q'.steps = steps' at wide ⊢
  induction narrow generalizing steps' with
  | nil =>
    cases wide
    exact .nil
  | cons first _ ih =>
    cases wide with
    | cons first' later' => exact .cons (stepOf_below simple first first') (ih _ later')

/-- Wider steps match every path that narrower ones match. A glob or a literal query therefore loses
no path where case is ignored, and only its size can have it refused then. -/
theorem widening_keeps_matches :
    (∀ (α ν : Type) (accepts : α → ν → Bool) (names : List ν) (xs ys : List (Step α)),
      List.Forall₂ (Step.Below accepts) xs ys →
        Step.judge accepts names xs = .ok true → Step.judge accepts names ys = .ok true) ∧
    ∀ dialect, dialect = .glob ∨ dialect = .literal →
      ∀ source q, compile dialect false source = .ok q →
        (∃ q', compile dialect true source = .ok q' ∧
          ∀ names, q.isMatch names = true → q'.isMatch names = true) ∨
        ∃ segment index offset, compile dialect true source =
          .error (.malformedPattern segment index offset .tooBig) := by
  constructor
  · intro α ν accepts names xs ys below matched
    exact Step.judge_of_below below matched
  · intro dialect simple source q heeds
    have refusal : (∃ q', compile dialect true source = .ok q') ∨ ∃ segment index offset,
        compile dialect true source = .error (.malformedPattern segment index offset .tooBig) := by
      rcases simple with rfl | rfl
      · exact (byCharacter_glob true).compile_query source
      · exact (byCharacter_literal true).compile_query source
    rcases refusal with ⟨q', ignores⟩ | refused
    · refine .inl ⟨q', ignores, fun names matched => ?_⟩
      rw [isMatch_iff] at matched ⊢
      exact Step.judge_of_below (steps_below simple heeds ignores) matched
    · exact .inr refused

theorem widening_keeps_matches_around_detour :
    Step.judge (fun p name => p == name) ["a", "b"]
        [.childOf, .literal "x", .parentDir, .literal "b"] = .ok true ∧
      Step.judge (fun p name => p == name) ["a", "b"]
        [.descendantOf, .descendantOf, .parentDir, .childOf] = .ok true ∧
      ∃ q', compile .glob true "A*" = .ok q' ∧ q'.isMatch ["Ab"] = true := by
  have widened := widening_keeps_matches
  refine ⟨rfl, ?_, ?_⟩
  · refine widened.1 String String _ _ [.childOf, .literal "x", .parentDir, .literal "b"] _ ?_ rfl
    exact .cons .anyLevels (.cons (.trans (.anyName "x") .anyLevels)
      (.cons (.refl _) (.cons (.anyName "b") .nil)))
  · have matched : (compile .glob false "A*").map (·.isMatch ["Ab"]) = .ok true := by cbv
    have small : (compile .glob true "A*").isOk = true := by cbv
    cases heeds : compile .glob false "A*" with
    | error e => simp [heeds, Except.map] at matched
    | ok q =>
      rcases widened.2 .glob (.inl rfl) "A*" q heeds with
        ⟨q', ignores, keeps⟩ | ⟨segment, index, offset, refused⟩
      · exact ⟨q', ignores, keeps ["Ab"] (by simpa [heeds, Except.map] using matched)⟩
      · simp [refused, Except.isOk, Except.toBool] at small

end Query

end PathQuery
