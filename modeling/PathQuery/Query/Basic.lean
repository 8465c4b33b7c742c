import PathQuery.Query.Alignment
import PathQuery.Query.Translation
import PathQuery.Path
import PathQuery.Text.Utf8

set_option autoImplicit false

namespace PathQuery

open PathQuery.Text

/-- A pattern for one name: the segment it was written as, the regular expression it stands for
and what that means. -/
structure NamePattern where
  source : String
  regex : String
  pattern : Regex.Pattern

namespace NamePattern

def compile (dialect : Dialect) (ignoreCase : Bool) (segment : List Char) :
    Except Regex.Error NamePattern := do
  let text := Dialect.anchor (dialect.translate segment)
  let pattern ← Regex.compile ignoreCase text
  .ok ⟨String.ofList segment, String.ofList text, pattern⟩

def accepts (p : NamePattern) (name : String) : Bool := p.pattern.isMatch name.toList

instance : BEq NamePattern := ⟨fun p q => p.source == q.source && p.regex == q.regex⟩

end NamePattern

-- Steps are the same if they are of the same kind and have the same pattern.
def Step.same : Step NamePattern → Step NamePattern → Bool
  | .sameDir, .sameDir | .parentDir, .parentDir | .childOf, .childOf
  | .descendantOf, .descendantOf => true
  | .literal p, .literal q => p == q
  | _, _ => false

def directive? (segment : List Char) : Option (Step NamePattern) :=
  match segment with
  | [] | ['.'] => some .sameDir
  | ['.', '.'] => some .parentDir
  | ['*'] => some .childOf
  | ['*', '*'] => some .descendantOf
  | _ => none

def compileSegment (dialect : Dialect) (ignoreCase : Bool) (index offset : Nat)
    (segment : List Char) : Except QueryError (Step NamePattern) :=
  match directive? segment with
  | some s => .ok s
  | none =>
      match NamePattern.compile dialect ignoreCase segment with
      | .ok p => .ok (.literal p)
      | .error e => .error (.malformedPattern (String.ofList segment) index offset e)

-- Compiles segments in turn. The first that fails decides.
def compileSegments (dialect : Dialect) (ignoreCase : Bool) :
    (index offset : Nat) → List (List Char) → Except QueryError (List (Step NamePattern))
  | _, _, [] => .ok []
  | index, offset, segment :: rest => do
      let s ← compileSegment dialect ignoreCase index offset segment
      let steps ← compileSegments dialect ignoreCase (index + 1)
        (offset + Utf8.size segment + 1) rest
      .ok (s :: steps)

-- The segments of a query. An empty query has none at all.
def querySegments (source : List Char) : List (List Char) :=
  match source with
  | [] => []
  | _ => split '/' source

structure Query where
  source : String
  dialect : Dialect
  ignoreCase : Bool
  steps : List (Step NamePattern)

namespace Query

def compile (dialect : Dialect) (ignoreCase : Bool) (source : String) :
    Except QueryError Query := do
  let steps ← compileSegments dialect ignoreCase 0 0 (querySegments source.toList)
  .ok ⟨source, dialect, ignoreCase, steps⟩

def reassign (q : Query) (ignoreCase : Bool) (source : String) : Except QueryError Query :=
  compile q.dialect ignoreCase source

def patterns (q : Query) : List NamePattern :=
  q.steps.filterMap fun s => match s with | .literal p => some p | _ => none

-- Queries are the same if they were made from the same text in the same way.
instance : BEq Query := ⟨fun p q =>
  p.source == q.source && p.dialect == q.dialect && p.ignoreCase == q.ignoreCase &&
    p.steps.length == q.steps.length && (List.zipWith Step.same p.steps q.steps).all id⟩

-- Judges a list of names: whether the query matches it, or the step that climbs above its start
-- where no alignment of the query comes to an end.
def tryMatch (q : Query) (names : List String) : Except QueryError Bool :=
  Step.judge NamePattern.accepts names q.steps

def isMatch (q : Query) (names : List String) : Bool :=
  match q.tryMatch names with
  | .ok b => b
  | .error _ => false

theorem isMatch_iff (q : Query) (names : List String) :
    q.isMatch names = true ↔ Step.judge NamePattern.accepts names q.steps = .ok true := by
  cases verdict : Step.judge NamePattern.accepts names q.steps <;> simp [isMatch, tryMatch, verdict]

end Query

end PathQuery
