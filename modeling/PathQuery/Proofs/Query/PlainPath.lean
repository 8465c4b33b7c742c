import PathQuery.Proofs.Alignment.Runs
import PathQuery.Proofs.Query.Literal
import PathQuery.Proofs.Query.Segments

set_option autoImplicit false

namespace PathQuery

open PathQuery.Text

def directiveNames : List String := [".", "..", "*", "**"]

theorem directive?_of_not_mem {name : String} (plain : name ∉ directiveNames) (filled : name ≠ "") :
    directive? name.toList = none := by
  simp only [directiveNames, List.mem_cons, List.not_mem_nil, or_false, not_or,
    ← String.toList_inj] at plain
  rw [Ne, ← String.toList_inj] at filled
  unfold directive?
  split <;> simp_all

namespace Step

def TakesJust (name : String) : Step NamePattern → Prop
  | .sameDir => name = ""
  | .literal p => name ≠ "" ∧ ∀ other, p.accepts other = true ↔ other = name
  | .parentDir | .childOf | .descendantOf => False

theorem takesJust_of_stepOf {name : String} {s : Step NamePattern} (plain : name ∉ directiveNames)
    (stands : stepOf .literal false name.toList = .ok s) : TakesJust name s := by
  by_cases empty : name = ""
  · subst empty
    obtain rfl := Except.ok.inj stands
    rfl
  · rcases stepOf_eq_ok stands with found | ⟨_, p, compiled, rfl⟩
    · simp [directive?_of_not_mem plain empty] at found
    · refine ⟨empty, fun other => ?_⟩
      rw [NamePattern.accepts_of_compile_literal compiled, forall₂_sameChar_iff, eq_comm,
        String.toList_inj]

variable {names path : List String} {steps : List (Step NamePattern)}

theorem settle?_of_takesJust (each : List.Forall₂ (fun name s => TakesJust name s) names steps)
    (kept : List (Step NamePattern)) :
    settle? kept steps = some (kept.reverse ++ steps.filter isNamed) := by
  induction each generalizing kept with
  | nil => simp [settle?]
  | @cons name s names steps takes _ ih =>
    cases s with
    | sameDir => simp [settle?, keep?, ih, isNamed]
    | literal p =>
      rw [List.filter_cons_of_pos rfl]
      simp [settle?, keep?, ih]
    | parentDir | childOf | descendantOf => exact takes.elim

theorem cuts_of_takesJust (each : List.Forall₂ (fun name s => TakesJust name s) names steps) :
    Cuts NamePattern.accepts (steps.filter isNamed) path ↔ path = filledNames names := by
  unfold filledNames
  induction each generalizing path with
  | nil => simp [cuts_nil]
  | @cons name s names steps takes _ ih =>
    cases s with
    | sameDir =>
      obtain rfl : name = "" := takes
      simpa [isNamed] using ih
    | literal p =>
      obtain ⟨filled, accepts⟩ := takes
      rw [List.filter_cons_of_pos rfl, List.filter_cons_of_pos (by simpa using filled), cuts_cons]
      simp [Spells, accepts, ih]
    | parentDir | childOf | descendantOf => exact takes.elim

end Step

theorem filter_querySegments (source : String) :
    filledNames ((querySegments source.toList).map String.ofList) = pathNames source := by
  unfold querySegments pathNames
  split
  next empty => simp [empty, filledNames, split]
  next => rfl

namespace Query

variable {dialect : Dialect} {ignoreCase : Bool} {source : String} {q : Query}

theorem steps_ne_nil (compiled : compile dialect ignoreCase source = .ok q) (filled : source ≠ "") :
    q.steps ≠ [] := by
  have lengths := (compileSegments_eq_ok_iff.mp (compileSegments_of_compile compiled)).length_eq
  have segments : querySegments source.toList ≠ [] := by
    unfold querySegments
    split
    next empty => exact absurd (String.toList_eq_nil_iff.mp empty) filled
    next => exact Text.split_ne_nil _ _
  intro none
  rw [none] at lengths
  exact segments (List.length_eq_zero_iff.mp lengths)

theorem takesJust_of_compile_literal (compiled : compile .literal false source = .ok q)
    (plain : ∀ name ∈ pathNames source, name ∉ directiveNames) :
    List.Forall₂ (fun name s => Step.TakesJust name s)
      ((querySegments source.toList).map String.ofList) q.steps := by
  have each : ∀ segment ∈ querySegments source.toList, String.ofList segment ∉ directiveNames := by
    intro segment member
    by_cases empty : String.ofList segment = ""
    · simp [empty, directiveNames]
    · apply plain
      rw [← filter_querySegments]
      exact List.mem_filter.mpr ⟨List.mem_map_of_mem member, by simpa using empty⟩
  have both := (List.forall₂_and_left _ _).mpr
    ⟨each, compileSegments_eq_ok_iff.mp (compileSegments_of_compile compiled)⟩
  rw [List.forall₂_map_left_iff]
  refine both.imp ?_
  rintro segment s ⟨plain, stands⟩
  apply Step.takesJust_of_stepOf plain
  rwa [String.toList_ofList]

theorem literal_isMatch_iff (compiled : compile .literal false source = .ok q)
    (plain : ∀ name ∈ pathNames source, name ∉ directiveNames) (names : List String) :
    q.isMatch names = true ↔ names = pathNames source := by
  have each := takesJust_of_compile_literal compiled plain
  have settles : Step.settle? [] q.steps = some (q.steps.filter Step.isNamed) :=
    Step.settle?_of_takesJust each []
  have descends : Step.Descends (q.steps.filter Step.isNamed) :=
    Step.descends_of_settle? settles (by simp [Step.Descends])
  have aligns : Step.Aligns NamePattern.accepts names q.steps 0 0 ↔
      Step.Aligns NamePattern.accepts names (q.steps.filter Step.isNamed) 0 0 :=
    Step.aligns_of_settle? settles
  rw [isMatch_iff, Step.judge_eq_ok_true_iff, Step.search_iff_aligns, aligns,
    Step.aligns_iff_cuts descends (Nat.zero_le _), List.drop_zero, Step.cuts_of_takesJust each,
    filter_querySegments]

end Query

end PathQuery
