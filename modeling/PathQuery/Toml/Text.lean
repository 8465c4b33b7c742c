import PathQuery.Text.Reading
import PathQuery.Unicode.CodeSet

set_option autoImplicit false

namespace PathQuery.Toml

open PathQuery.Text

inductive Error where
  | malformed
  -- A key is given twice, or a table is extended that cannot be.
  | redefined
  | mistyped
deriving DecidableEq, Repr

abbrev TomlReader (α : Type) := Reader Char Error α

def normalize : List Char → List Char
  | '\r' :: '\n' :: cs => '\n' :: normalize cs
  | c :: cs => c :: normalize cs
  | [] => []

def isBlank (c : Char) : Bool := c == ' ' || c == '\t'

def isTextChar (c : Char) : Bool := c == '\t' || (' ' ≤ c && c != '\x7f')

def skipIf (c : Char) : TomlReader Bool := Reader.skipText [c]

def expect (c : Char) : TomlReader Unit := do
  if ← skipIf c then pure () else Reader.fail .malformed

def skipBlanks : TomlReader Unit := do
  let _ ← Reader.takeWhile isBlank

structure Quotes where
  mark : Char
  escapes : Bool
  -- Whether the string can go over several lines. Its marks are then written three times.
  multiline : Bool

def escapes : List (Char × Char) :=
  [('b', '\x08'), ('t', '\t'), ('n', '\n'), ('f', '\x0c'), ('r', '\r'), ('"', '"'), ('\\', '\\')]

def escapeDigits : List (Char × Nat) := [('u', 4), ('U', 8)]

def readNumbered (count : Nat) : TomlReader Char := do
  let digits := (← Reader.ahead).take count
  if digits.length = count ∧ digits.all (fun c => (Unicode.hexDigit? c).isSome) then do
    Reader.skip count
    let n := Unicode.hexValue (String.ofList digits)
    if n.isValidChar then pure (Char.ofNat n) else Reader.fail .malformed
  else Reader.fail .malformed

def readEscaped : TomlReader Char := do
  match ← Reader.next? with
  | none => Reader.fail .malformed
  | some c =>
      match escapes.lookup c, escapeDigits.lookup c with
      | some d, _ => pure d
      | none, some count => readNumbered count
      | none, none => Reader.fail .malformed

def atLineEnd (input : List Char) : Bool := (input.dropWhile isBlank).head? == some '\n'

-- Reads up to the closing mark, given what was read before, the latest character first. Up to two
-- marks may stand within a string of several lines, and also directly before its end. A backslash
-- at the end of a line takes away the break and all blanks after it.
def readChars (q : Quotes) (done : List Char) (input : List Char) :
    Except Error (Taken (List Char) input) :=
  match input with
  | [] => .error .malformed
  | c :: rest =>
      if c == q.mark then
        let others := rest.takeWhile (· == q.mark)
        have le : (rest.drop others.length).length ≤ rest.length := by simp
        if !q.multiline then .ok ⟨done, rest, Nat.le_succ _⟩
        else if others.length < 2 then
          further c le (readChars q (c :: others ++ done) (rest.drop others.length))
        else if others.length < 5 then
          .ok ⟨others.drop 2 ++ done, rest.drop others.length, Nat.le_succ_of_le le⟩
        else .error .malformed
      else if c == '\\' && q.escapes then
        if q.multiline && atLineEnd rest then
          let after := rest.dropWhile fun d => isBlank d || d == '\n'
          have le : after.length ≤ rest.length := (List.dropWhile_sublist _).length_le
          further c le (readChars q done after)
        else
          match readEscaped rest with
          | .error e => .error e
          | .ok ⟨d, rest', le⟩ => further c le (readChars q (d :: done) rest')
      else if isTextChar c || (q.multiline && c == '\n') then
        further c (Nat.le_refl _) (readChars q (c :: done) rest)
      else .error .malformed
termination_by input.length
decreasing_by
  all_goals simp only [List.length_cons]
  · simp only [List.length_drop]
    omega
  · exact Nat.lt_succ_of_le (List.dropWhile_sublist _).length_le
  · omega
  · omega
where
  further (c : Char) {rest inner : List Char} (le : inner.length ≤ rest.length) :
      Except Error (Taken (List Char) inner) → Except Error (Taken (List Char) (c :: rest))
    | .error e => .error e
    | .ok t => .ok ⟨t.value, t.rest, Nat.le_succ_of_le (Nat.le_trans t.le le)⟩

-- Reads a string after its first mark. A break directly after three marks does not count.
def readString (mark : Char) (multiline : Bool) : TomlReader String := do
  let multiline ← if multiline then Reader.skipText [mark, mark] else pure false
  if multiline then
    let _ ← skipIf '\n'
  let chars ← readChars ⟨mark, mark == '"', multiline⟩ []
  pure (String.ofList chars.reverse)

def isBareChar (c : Char) : Bool := c.isAlphanum || c == '_' || c == '-'

def readName : TomlReader String := do
  match ← Reader.peek with
  | some '"' => do
      Reader.skip 1
      readString '"' false
  | some '\'' => do
      Reader.skip 1
      readString '\'' false
  | _ => do
      let name ← Reader.takeWhile isBareChar
      if name.isEmpty then Reader.fail .malformed else pure (String.ofList name)

end PathQuery.Toml
