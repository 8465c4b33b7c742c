set_option autoImplicit false

namespace PathQuery

namespace Text

-- The parts of a text between the places where `separator` stands. There is always one more part
-- than there are such places.
def split (separator : Char) : List Char → List (List Char)
  | [] => [[]]
  | c :: cs =>
      if c = separator then [] :: split separator cs
      else match split separator cs with
        | [] => [[c]]
        | part :: parts => (c :: part) :: parts

theorem split_ne_nil (separator : Char) (s : List Char) : split separator s ≠ [] := by
  cases s with
  | nil => simp [split]
  | cons c cs =>
      simp only [split]
      split <;> try simp
      split <;> simp

end Text

-- The names of a path that is given name by name. Empty ones carry no position and are dropped.
def filledNames (names : List String) : List String := names.filter (· ≠ "")

def pathNames (path : String) : List String :=
  filledNames ((Text.split '/' path.toList).map String.ofList)

def pathText (names : List String) : String := "/" ++ String.intercalate "/" names

end PathQuery
