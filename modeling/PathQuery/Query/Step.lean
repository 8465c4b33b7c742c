set_option autoImplicit false

namespace PathQuery

inductive Step (α : Type) where
  | sameDir
  | parentDir
  | childOf
  | descendantOf
  | literal (pattern : α)
deriving DecidableEq, Repr

namespace Step

variable {α ν : Type}

def isParentDir : Step α → Bool
  | .parentDir => true
  | _ => false

def parents (steps : List (Step α)) : Nat := steps.countP isParentDir

theorem parents_cons (s : Step α) (rest : List (Step α)) :
    parents (s :: rest) = parents rest + match s with | .parentDir => 1 | _ => 0 := by
  rw [parents, List.countP_cons]
  cases s <;> rfl

def takes (accepts : α → ν → Bool) (s : Step α) (names : List ν) (seg : Nat) : Bool :=
  match s, names[seg]? with
  | .literal p, some n => accepts p n
  | _, some _ => true
  | _, none => false

theorem takes_literal (accepts : α → ν → Bool) (p : α) (names : List ν) (seg : Nat) :
    (literal p).takes accepts names seg = names[seg]?.any (accepts p) := by
  cases found : names[seg]? <;> simp [takes, found]

theorem takes_childOf (accepts : α → ν → Bool) (names : List ν) (seg : Nat) :
    childOf.takes accepts names seg = names[seg]?.any fun _ => true := by
  cases found : names[seg]? <;> simp [takes, found]

end Step

end PathQuery
