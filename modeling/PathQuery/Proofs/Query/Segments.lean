import Mathlib
import PathQuery.Proofs.Path.ReadBack
import PathQuery.Proofs.Text.Utf8
import PathQuery.Query.Basic

set_option autoImplicit false

namespace PathQuery

variable {dialect : Dialect} {ignoreCase : Bool} {index offset : Nat} {segment : List Char}

def stepOf (dialect : Dialect) (ignoreCase : Bool) (segment : List Char) :
    Except Regex.Error (Step NamePattern) :=
  match directive? segment with
  | some s => .ok s
  | none => (NamePattern.compile dialect ignoreCase segment).map .literal

theorem stepOf_eq_ok {s : Step NamePattern} (stands : stepOf dialect ignoreCase segment = .ok s) :
    directive? segment = some s ∨
      directive? segment = none ∧
        ∃ p, NamePattern.compile dialect ignoreCase segment = .ok p ∧ s = .literal p := by
  unfold stepOf at stands
  cases found : directive? segment with
  | some d => exact .inl (by simpa [found] using stands)
  | none =>
    cases compiled : NamePattern.compile dialect ignoreCase segment with
    | error e => simp [found, compiled, Except.map] at stands
    | ok p =>
      obtain rfl : Step.literal p = s := by simpa [found, compiled, Except.map] using stands
      exact .inr ⟨rfl, p, rfl, rfl⟩

theorem compile_of_stepOf_eq_error {reason : Regex.Error}
    (fails : stepOf dialect ignoreCase segment = .error reason) :
    NamePattern.compile dialect ignoreCase segment = .error reason := by
  unfold stepOf at fails
  cases found : directive? segment with
  | some d => simp [found] at fails
  | none =>
    cases compiled : NamePattern.compile dialect ignoreCase segment with
    | error e => simpa [found, compiled, Except.map] using fails
    | ok p => simp [found, compiled, Except.map] at fails

theorem stepOf_of_compile {p : NamePattern}
    (compiled : NamePattern.compile dialect ignoreCase segment = .ok p) :
    ∃ s, stepOf dialect ignoreCase segment = .ok s := by
  unfold stepOf
  cases directive? segment with
  | some s => exact ⟨s, rfl⟩
  | none => exact ⟨_, by rw [compiled]; rfl⟩

theorem compileSegment_eq (dialect : Dialect) (ignoreCase : Bool) (index offset : Nat)
    (segment : List Char) :
    compileSegment dialect ignoreCase index offset segment =
      (stepOf dialect ignoreCase segment).mapError
        (.malformedPattern (String.ofList segment) index offset) := by
  unfold compileSegment stepOf
  cases directive? segment with
  | some s => rfl
  | none => cases NamePattern.compile dialect ignoreCase segment <;> rfl

theorem compileSegments_of_step {s : Step NamePattern} (first : stepOf dialect ignoreCase segment = .ok s)
    (rest : List (List Char)) :
    compileSegments dialect ignoreCase index offset (segment :: rest) =
      (compileSegments dialect ignoreCase (index + 1) (offset + Utf8.size segment + 1) rest).map
        (s :: ·) := by
  rw [compileSegments, compileSegment_eq, first]
  rfl

theorem compileSegments_of_refused {reason : Regex.Error}
    (first : stepOf dialect ignoreCase segment = .error reason) (rest : List (List Char)) :
    compileSegments dialect ignoreCase index offset (segment :: rest) =
      .error (.malformedPattern (String.ofList segment) index offset reason) := by
  rw [compileSegments, compileSegment_eq, first]
  rfl

theorem compileSegments_eq_ok_iff {segments : List (List Char)} {steps : List (Step NamePattern)} :
    compileSegments dialect ignoreCase index offset segments = .ok steps ↔
      List.Forall₂ (fun segment s => stepOf dialect ignoreCase segment = .ok s) segments steps := by
  induction segments generalizing index offset steps with
  | nil => simp [compileSegments, eq_comm]
  | cons segment rest ih =>
    have later := @ih (index + 1) (offset + Utf8.size segment + 1)
    rw [List.forall₂_cons_left_iff]
    simp only [← later]
    cases first : stepOf dialect ignoreCase segment with
    | error reason => simp [compileSegments_of_refused first]
    | ok s =>
      rw [compileSegments_of_step first]
      cases compileSegments dialect ignoreCase (index + 1) (offset + Utf8.size segment + 1) rest <;>
        simp [Except.map, eq_comm]

def bytesBefore (before : List (List Char)) : Nat := (before.map fun part => Utf8.size part + 1).sum

theorem compileSegments_eq_error {segments : List (List Char)} {e : QueryError}
    (refused : compileSegments dialect ignoreCase index offset segments = .error e) :
    ∃ before segment after reason, segments = before ++ segment :: after ∧
      (∀ earlier ∈ before, ∃ s, stepOf dialect ignoreCase earlier = .ok s) ∧
      stepOf dialect ignoreCase segment = .error reason ∧
      e = .malformedPattern (String.ofList segment) (index + before.length)
        (offset + bytesBefore before) reason := by
  induction segments generalizing index offset with
  | nil => simp [compileSegments] at refused
  | cons segment rest ih =>
    cases first : stepOf dialect ignoreCase segment with
    | error reason =>
      rw [compileSegments_of_refused first] at refused
      exact ⟨[], segment, rest, reason, rfl, by simp, first, (Except.error.inj refused).symm⟩
    | ok s =>
      rw [compileSegments_of_step first] at refused
      cases later : compileSegments dialect ignoreCase (index + 1)
          (offset + Utf8.size segment + 1) rest with
      | ok steps => simp [later, Except.map] at refused
      | error e' =>
        obtain rfl : e' = e := by simpa [later, Except.map] using refused
        obtain ⟨before, failing, after, reason, rfl, earlier, fails, rfl⟩ := ih later
        refine ⟨segment :: before, failing, after, reason, rfl, ?_, fails, ?_⟩
        · exact List.forall_mem_cons.mpr ⟨⟨s, first⟩, earlier⟩
        · simp [bytesBefore, Nat.add_assoc, Nat.add_comm 1]

/-- Where a segment stands in the text of a query: between two slashes, or at an end of it, with
`index` slashes and `offset` bytes before it. -/
def StandsAt (source segment : List Char) (index offset : Nat) : Prop :=
  ∃ before after, source = before ++ segment ++ after ∧ '/' ∉ segment ∧
    (before = [] ∨ before.getLast? = some '/') ∧ (after = [] ∨ after.head? = some '/') ∧
    before.count '/' = index ∧ (Utf8.encode before).length = offset

theorem StandsAt.bytes {source segment : List Char} {index offset : Nat}
    (stands : StandsAt source segment index offset) :
    ((Utf8.encode source).drop offset).take (Utf8.encode segment).length = Utf8.encode segment := by
  obtain ⟨before, after, rfl, _, _, _, _, rfl⟩ := stands
  rw [List.append_assoc, Utf8.encode_append, List.drop_left, Utf8.encode_append, List.take_left]

theorem size_ended (before : List (List Char)) :
    Utf8.size (before.flatMap (· ++ ['/'])) = bytesBefore before := by
  induction before with
  | nil => rfl
  | cons part before ih =>
    have slash : Utf8.size ['/'] = 1 := rfl
    rw [List.flatMap_cons, Utf8.size_append, Utf8.size_append, ih, slash]
    simp [bytesBefore]

theorem count_ended {before : List (List Char)} (whole : ∀ part ∈ before, '/' ∉ part) :
    (before.flatMap (· ++ ['/'])).count '/' = before.length := by
  induction before with
  | nil => rfl
  | cons part before ih =>
    obtain ⟨clean, whole⟩ := List.forall_mem_cons.mp whole
    rw [List.flatMap_cons, List.count_append, List.count_append, List.count_eq_zero.mpr clean, ih whole]
    simp [Nat.add_comm]

theorem standsAt_of_split {source segment : List Char} {before after : List (List Char)}
    (parts : Text.split '/' source = before ++ segment :: after) :
    StandsAt source segment before.length (bytesBefore before) := by
  have whole : ∀ part ∈ before ++ segment :: after, '/' ∉ part := fun part member =>
    Text.not_mem_of_mem_split (parts ▸ member)
  refine ⟨before.flatMap (· ++ ['/']), after.flatMap ('/' :: ·), Text.eq_of_split parts,
    whole segment (by simp), ?_, ?_, count_ended fun part member => whole part (by simp [member]), ?_⟩
  · rcases List.eq_nil_or_concat before with rfl | ⟨front, last, rfl⟩
    · exact .inl rfl
    · exact .inr (by simp)
  · cases after with
    | nil => exact .inl rfl
    | cons next after => exact .inr rfl
  · rw [Utf8.length_encode, size_ended]

namespace Step

def kind {α : Type} : Step α → Step Unit
  | .sameDir => .sameDir
  | .parentDir => .parentDir
  | .childOf => .childOf
  | .descendantOf => .descendantOf
  | .literal _ => .literal ()

end Step

theorem kind_of_stepOf {s : Step NamePattern} (stands : stepOf dialect ignoreCase segment = .ok s) :
    s.kind = ((directive? segment).map Step.kind).getD (.literal ()) := by
  rcases stepOf_eq_ok stands with found | ⟨found, p, _, rfl⟩ <;> simp [found, Step.kind]

def plainSegments : List String := ["", ".", "..", "*", "**"]

theorem directive?_eq_none_iff (segment : String) :
    directive? segment.toList = none ↔ segment ∉ plainSegments := by
  simp only [plainSegments, List.mem_cons, List.not_mem_nil, or_false, not_or, ← String.toList_inj]
  unfold directive?
  split <;> simp_all

namespace Query

variable {source : String}

theorem compile_eq (dialect : Dialect) (ignoreCase : Bool) (source : String) :
    compile dialect ignoreCase source =
      (compileSegments dialect ignoreCase 0 0 (querySegments source.toList)).map
        (⟨source, dialect, ignoreCase, ·⟩) := rfl

theorem compileSegments_of_compile {q : Query}
    (compiled : compile dialect ignoreCase source = .ok q) :
    compileSegments dialect ignoreCase 0 0 (querySegments source.toList) = .ok q.steps := by
  rw [compile_eq] at compiled
  cases steps : compileSegments dialect ignoreCase 0 0 (querySegments source.toList) with
  | error e => simp [steps, Except.map] at compiled
  | ok steps =>
    simp only [steps, Except.map, Except.ok.injEq] at compiled
    rw [← compiled]

theorem querySegments_of_ne (filled : source ≠ "") :
    querySegments source.toList = Text.split '/' source.toList := by
  unfold querySegments
  split
  next empty => exact absurd (String.toList_eq_nil_iff.mp empty) filled
  next => rfl

theorem compile_alone {segment : String} (filled : segment ≠ "") (whole : '/' ∉ segment.toList) :
    compile dialect ignoreCase segment =
      match stepOf dialect ignoreCase segment.toList with
      | .ok s => .ok ⟨segment, dialect, ignoreCase, [s]⟩
      | .error reason => .error (.malformedPattern segment 0 0 reason) := by
  rw [compile_eq, querySegments_of_ne filled, Text.split_of_not_mem whole]
  cases first : stepOf dialect ignoreCase segment.toList with
  | ok s => rw [compileSegments_of_step first]; rfl
  | error reason => rw [compileSegments_of_refused first, String.ofList_toList]; rfl

theorem compiles_alone_iff {segment : String} (whole : '/' ∉ segment.toList) :
    (segment ∉ plainSegments → ∃ q, compile dialect ignoreCase segment = .ok q) ↔
      ∃ s, stepOf dialect ignoreCase segment.toList = .ok s := by
  by_cases plain : segment ∈ plainSegments
  · have directive : directive? segment.toList ≠ none := fun none =>
      (directive?_eq_none_iff segment).mp none plain
    obtain ⟨s, found⟩ := Option.ne_none_iff_exists'.mp directive
    simp [plain, stepOf, found]
  · have filled : segment ≠ "" := fun empty => plain (by simp [empty, plainSegments])
    rw [compile_alone filled whole]
    cases stepOf dialect ignoreCase segment.toList <;> simp [plain]

theorem steps_of_compile {q : Query} (filled : source ≠ "")
    (compiled : compile dialect ignoreCase source = .ok q) :
    List.Forall₂ (fun segment s => stepOf dialect ignoreCase segment = .ok s)
      (Text.split '/' source.toList) q.steps := by
  rw [← querySegments_of_ne filled]
  exact compileSegments_eq_ok_iff.mp (compileSegments_of_compile compiled)

theorem kinds_of_compile {q : Query} (filled : source ≠ "")
    (compiled : compile dialect ignoreCase source = .ok q) :
    q.steps.map Step.kind = (Text.split '/' source.toList).map
      fun segment => ((directive? segment).map Step.kind).getD (.literal ()) := by
  have each := steps_of_compile filled compiled
  generalize Text.split '/' source.toList = segments at each
  generalize q.steps = steps at each
  induction each with
  | nil => rfl
  | cons first _ ih => rw [List.map_cons, List.map_cons, kind_of_stepOf first, ih]

theorem refused_of_compile {e : QueryError} (filled : source ≠ "")
    (refused : compile dialect ignoreCase source = .error e) :
    ∃ before segment after reason, Text.split '/' source.toList = before ++ segment :: after ∧
      (∀ earlier ∈ before, ∃ s, stepOf dialect ignoreCase earlier = .ok s) ∧
      stepOf dialect ignoreCase segment = .error reason ∧
      e = .malformedPattern (String.ofList segment) before.length (bytesBefore before) reason := by
  rw [compile_eq, querySegments_of_ne filled] at refused
  cases steps : compileSegments dialect ignoreCase 0 0 (Text.split '/' source.toList) with
  | ok steps' => simp [steps, Except.map] at refused
  | error e' =>
    obtain rfl : e' = e := by simpa [steps, Except.map] using refused
    simpa using compileSegments_eq_error steps

theorem compiles_iff (filled : source ≠ "") :
    (∃ q, compile dialect ignoreCase source = .ok q) ↔
      ∀ segment ∈ Text.split '/' source.toList, ∃ s, stepOf dialect ignoreCase segment = .ok s := by
  constructor
  · rintro ⟨q, compiled⟩ segment member
    have each := steps_of_compile filled compiled
    obtain ⟨i, inside, rfl⟩ := List.mem_iff_getElem.mp member
    exact ⟨_, each.get inside (each.length_eq ▸ inside)⟩
  · intro each
    cases compiled : compile dialect ignoreCase source with
    | ok q => exact ⟨q, rfl⟩
    | error e =>
      obtain ⟨before, segment, after, reason, parts, _, fails, _⟩ := refused_of_compile filled compiled
      obtain ⟨s, stands⟩ := each segment (by simp [parts])
      simp [fails] at stands

/-- A query compiles as its segments do by themselves, to one step for each of them. Otherwise the
first segment that is refused is reported, with the reason it is refused for by itself and with the
place in the text where it stands. -/
theorem compile_by_segments (dialect : Dialect) (ignoreCase : Bool) (source : String)
    (filled : source ≠ "") :
    let segments := (Text.split '/' source.toList).map String.ofList
    ((∃ q, compile dialect ignoreCase source = .ok q) ↔
      ∀ segment ∈ segments, segment ∉ ["", ".", "..", "*", "**"] →
        ∃ q, compile dialect ignoreCase segment = .ok q) ∧
    (∀ q, compile dialect ignoreCase source = .ok q →
      List.Forall₂ (fun segment s =>
        if segment = "" then s = .sameDir
        else ∃ alone, compile dialect ignoreCase segment = .ok alone ∧ alone.steps = [s])
        segments q.steps) ∧
    (∀ q dialect' ignoreCase' q', compile dialect ignoreCase source = .ok q →
      compile dialect' ignoreCase' source = .ok q' →
      q.steps.map Step.kind = q'.steps.map Step.kind) ∧
    ∀ e, compile dialect ignoreCase source = .error e →
      ∃ segment index offset reason, e = .malformedPattern segment index offset reason ∧
        segments[index]? = some segment ∧
        (∀ earlier ∈ segments.take index, earlier ∉ ["", ".", "..", "*", "**"] →
          ∃ q, compile dialect ignoreCase earlier = .ok q) ∧
        compile dialect ignoreCase segment = .error (.malformedPattern segment 0 0 reason) ∧
        StandsAt source.toList segment.toList index offset ∧
        ((Utf8.encode source.toList).drop offset).take (Utf8.encode segment.toList).length =
          Utf8.encode segment.toList := by
  have whole (part : List Char) (member : part ∈ Text.split '/' source.toList) :
      '/' ∉ (String.ofList part).toList := by
    rw [String.toList_ofList]
    exact Text.not_mem_of_mem_split member
  have alone (part : List Char) (member : part ∈ Text.split '/' source.toList) :
      (String.ofList part ∉ ["", ".", "..", "*", "**"] →
          ∃ q, compile dialect ignoreCase (String.ofList part) = .ok q) ↔
        ∃ s, stepOf dialect ignoreCase part = .ok s := by
    simpa [plainSegments] using compiles_alone_iff (whole part member)
  refine ⟨?_, ?_, ?_, ?_⟩
  · rw [compiles_iff filled, List.forall_mem_map]
    exact forall₂_congr fun part member => (alone part member).symm
  · intro q compiled
    rw [List.forall₂_map_left_iff]
    refine ((List.forall₂_and_left _ _).mpr ⟨whole, steps_of_compile filled compiled⟩).imp ?_
    rintro part s ⟨whole, stands⟩
    split_ifs with empty
    · obtain rfl : part = [] := String.ofList_eq_empty_iff.mp empty
      exact (Except.ok.inj stands).symm
    · rw [compile_alone empty whole, String.toList_ofList, stands]
      exact ⟨_, rfl, rfl⟩
  · intro q dialect' ignoreCase' q' compiled compiled'
    rw [kinds_of_compile filled compiled, kinds_of_compile filled compiled']
  · intro e refused
    obtain ⟨before, part, after, reason, parts, earlier, fails, rfl⟩ := refused_of_compile filled refused
    have member : part ∈ Text.split '/' source.toList := by simp [parts]
    have stands : StandsAt source.toList (String.ofList part).toList before.length
        (bytesBefore before) := by
      rw [String.toList_ofList]
      exact standsAt_of_split parts
    refine ⟨_, _, _, reason, rfl, ?_, ?_, ?_, stands, stands.bytes⟩
    · simp [parts]
    · rw [← List.map_take, parts, List.take_left, List.forall_mem_map]
      intro part' member'
      exact (alone part' (by simp [parts, member'])).mpr (earlier part' member')
    · have filled' : String.ofList part ≠ "" := by
        intro empty
        obtain rfl : part = [] := String.ofList_eq_empty_iff.mp empty
        simp [stepOf, directive?] at fails
      rw [compile_alone filled' (whole part member), String.toList_ofList, fails]

theorem compile_by_segments_behind_accent :
    "\u00e9/(" ≠ "" ∧
      compile .regex false "\u00e9/(" = .error (.malformedPattern "(" 1 3 .groupUnclosed) ∧
      compile .regex false "(" = .error (.malformedPattern "(" 0 0 .groupUnclosed) ∧
      StandsAt "\u00e9/(".toList ['('] 1 3 := by
  have filled : "\u00e9/(" ≠ "" := by decide
  have refused : compile .regex false "\u00e9/(" =
      .error (.malformedPattern "(" 1 3 .groupUnclosed) := by
    cbv
  obtain ⟨segment, index, offset, reason, same, _, _, alone, stands, _⟩ :=
    (compile_by_segments .regex false "\u00e9/(" filled).2.2.2 _ refused
  obtain ⟨rfl, rfl, rfl, rfl⟩ : "(" = segment ∧ 1 = index ∧ 3 = offset ∧ .groupUnclosed = reason := by
    simpa using same
  exact ⟨filled, refused, alone, stands⟩

end Query

end PathQuery
