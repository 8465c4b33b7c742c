import PathQuery.Proofs.Query.Segments
import PathQuery.Proofs.Query.WholeName
import PathQuery.Proofs.Regex.Sequence

set_option autoImplicit false

namespace PathQuery

open PathQuery.Regex PathQuery.Unicode

/-- The characters are the same or, where case is ignored, fold together. -/
def SameChar (ignoreCase : Bool) (c d : Char) : Prop :=
  if ignoreCase then c ∈ orbit d else c = d

instance (ignoreCase : Bool) (c d : Char) : Decidable (SameChar ignoreCase c d) :=
  inferInstanceAs (Decidable (if ignoreCase then c ∈ orbit d else c = d))

theorem contains_fold_single (ignoreCase : Bool) (c d : Char) :
    ((Flags.default ignoreCase).fold (.single c)).contains d = true ↔ SameChar ignoreCase c d := by
  cases ignoreCase with
  | false =>
    change (CharClass.single c).contains d = true ↔ c = d
    rw [CharClass.contains_single, eq_comm]
  | true => simp [Flags.fold, Flags.default, SameChar, CharClass.contains, CharClass.contains_single]

theorem size_fold_single_le (ignoreCase : Bool) (c : Char) :
    (Pattern.chars ((Flags.default ignoreCase).fold (.single c))).size ≤ 256 := by
  have few : (CharClass.single c).transitions ≤ 4 := by
    have narrow : c.toNat - c.toNat < 64 := by omega
    simp only [CharClass.single, CharClass.transitions, narrow, if_true]
    split
    · decide
    · exact Char.utf8Size_le_four c
  have folded : ((Flags.default ignoreCase).fold (.single c)).transitions ≤ 8 := by
    cases ignoreCase with
    | false => exact Nat.le_trans few (by decide)
    | true => exact Nat.mul_le_mul_left 2 few
  simp only [Pattern.size, stateSize]
  omega

theorem charPattern_default (ignoreCase : Bool) (c : Char) :
    charPattern (.default ignoreCase) c = .chars ((Flags.default ignoreCase).fold (.single c)) := by
  cases ignoreCase <;> rfl

theorem ofText_anchor_of_reads {text : List Char} {items : List Ast} (reads : ReadsAs text items)
    (shallow : ∀ a ∈ items, a.depth ≤ 1) :
    Ast.ofText (Dialect.anchor text) = .ok (anchored (Ast.ofItems items)) := by
  have body : (ReadState.start.pushAll items).body = Ast.ofItems items := by
    simp [ReadState.body, ReadState.pushAll, ReadState.start, Ast.ofBranches, chain]
  have read : ReadState.start.read (Dialect.anchor text) = .ok (anchored (Ast.ofItems items)) := by
    rw [read_anchor, reads.read (ReadState.start.inside anchorGroup) closing rfl (by decide), ← body,
      ← body_closed_anchorGroup]
    exact ReadState.read_closing (s := ReadState.start.pushAll items) anchorGroup rfl rfl
  have deep : (anchored (Ast.ofItems items)).depth ≤ nestLimit := by
    have := Ast.depth_ofItems_le shallow
    rw [depth_anchored, nestLimit]
    omega
  simp [Ast.ofText, read, bind, Except.bind, deep]

/-- The name pattern of a segment in which every character stands for a part of the name. -/
def NamePattern.ofChars (dialect : Dialect) (pattern : Char → Pattern) (segment : List Char) :
    NamePattern :=
  between dialect segment (.ofItems (segment.map pattern))

theorem NamePattern.accepts_ofChars_iff (dialect : Dialect) (pattern : Char → Pattern)
    (segment : List Char) (name : String) :
    (ofChars dialect pattern segment).accepts name = true ↔
      (Pattern.ofItems (segment.map pattern)).Spans name.toList 0 name.toList.length :=
  accepts_between_iff dialect segment _ name

/-- Segments stand for their characters, and nothing but their size has them refused. -/
def ByCharacter (dialect : Dialect) (ignoreCase : Bool) (pattern : Char → Pattern) : Prop :=
  ∀ segment, NamePattern.compile dialect ignoreCase segment =
    if (NamePattern.ofChars dialect pattern segment).pattern.size ≤ sizeLimit then
      .ok (NamePattern.ofChars dialect pattern segment)
    else .error .tooBig

namespace ByCharacter

variable {dialect : Dialect} {ignoreCase : Bool} {pattern : Char → Pattern} {segment : List Char}
  {p : NamePattern}

theorem of_reads {ast : Char → Ast}
    (reads : ∀ segment, ReadsAs (dialect.translate segment) (segment.map ast))
    (shallow : ∀ c, (ast c).depth ≤ 1)
    (meaning : ∀ c, (ast c).denote (.default ignoreCase) = .ok (pattern c, .default ignoreCase)) :
    ByCharacter dialect ignoreCase pattern := by
  intro segment
  have read := ofText_anchor_of_reads (reads segment) fun a member => by
    obtain ⟨c, _, rfl⟩ := List.mem_map.mp member
    exact shallow c
  exact NamePattern.compile_of_anchored read (Ast.denote_ofItems meaning segment)

theorem eq_ofChars (simple : ByCharacter dialect ignoreCase pattern)
    (compiled : NamePattern.compile dialect ignoreCase segment = .ok p) :
    p = .ofChars dialect pattern segment := by
  rw [simple segment] at compiled
  split_ifs at compiled
  exact (Except.ok.inj compiled).symm

theorem eq_tooBig (simple : ByCharacter dialect ignoreCase pattern) {reason : Regex.Error}
    (refused : NamePattern.compile dialect ignoreCase segment = .error reason) :
    reason = .tooBig := by
  rw [simple segment] at refused
  split_ifs at refused
  exact (Except.error.inj refused).symm

theorem compile_query (simple : ByCharacter dialect ignoreCase pattern) (source : String) :
    (∃ q, Query.compile dialect ignoreCase source = .ok q) ∨
      ∃ segment index offset, Query.compile dialect ignoreCase source =
        .error (.malformedPattern segment index offset .tooBig) := by
  cases compiled : Query.compile dialect ignoreCase source with
  | ok q => exact .inl ⟨q, rfl⟩
  | error e =>
    by_cases filled : source = ""
    · subst filled
      cases compiled
    obtain ⟨before, segment, after, reason, _, _, fails, rfl⟩ :=
      Query.refused_of_compile filled compiled
    obtain rfl : reason = .tooBig := simple.eq_tooBig (compile_of_stepOf_eq_error fails)
    exact .inr ⟨_, _, _, rfl⟩

theorem compile_short (simple : ByCharacter dialect ignoreCase pattern) {cost : Nat}
    (each : ∀ c, (pattern c).size ≤ cost) (source : String)
    (short : 3 * stateSize + cost * source.length ≤ sizeLimit) :
    ∃ q, Query.compile dialect ignoreCase source = .ok q := by
  by_cases filled : source = ""
  · subst filled
    exact ⟨_, rfl⟩
  refine (Query.compiles_iff filled).mpr fun segment member => ?_
  have inside : segment.length ≤ source.length := Text.length_le_of_mem_split member
  have small : (NamePattern.ofChars dialect pattern segment).pattern.size ≤ sizeLimit := calc
    _ = (Pattern.ofItems (segment.map pattern)).size + 2 * stateSize := by
      simp only [NamePattern.ofChars, NamePattern.between, Pattern.size]
      omega
    _ ≤ (stateSize + cost * segment.length) + 2 * stateSize := by
      gcongr
      exact Pattern.size_ofItems_map_le each segment
    _ ≤ 3 * stateSize + cost * source.length := by
      have := Nat.mul_le_mul_left cost inside
      omega
    _ ≤ sizeLimit := short
  exact stepOf_of_compile ((simple segment).trans (if_pos small))

end ByCharacter

end PathQuery
