import PathQuery.Document.Yaml.Scalar.Gap
import PathQuery.Unicode.CodeSet

set_option autoImplicit false

namespace PathQuery.Yaml

open PathQuery.Text

def escapes : List (Char × Char) :=
  [('0', '\x00'), ('a', '\x07'), ('b', '\x08'), ('t', '\t'), ('\t', '\t'), ('n', '\n'),
    ('v', '\x0b'), ('f', '\x0c'), ('r', '\r'), ('e', '\x1b'), (' ', ' '), ('"', '"'), ('/', '/'),
    ('\\', '\\'), ('N', '\u0085'), ('_', '\u00a0'), ('L', '\u2028'), ('P', '\u2029')]

def escapeDigits : List (Char × Nat) := [('x', 2), ('u', 4), ('U', 8)]

def readNumbered (count : Nat) : YamlReader Char := do
  let digits := ((← Reader.ahead).take count).map Placed.char
  if digits.length = count ∧ digits.all (fun c => (Unicode.hexDigit? c).isSome) then do
    Reader.skip count
    let n := Unicode.hexValue (String.ofList digits)
    if n.isValidChar then pure (Char.ofNat n) else Reader.fail .malformed
  else Reader.fail .malformed

def readEscaped : YamlReader Char := do
  let c ← YamlReader.take fun _ => true
  match escapes.lookup c, escapeDigits.lookup c with
  | some d, _ => pure d
  | none, some count => readNumbered count
  | none, none => Reader.fail .malformed

-- Reads up to the closing quote, given what was read before, the latest character first, and the
-- gap since then.
def readQuotedChars (double : Bool) (done : List Char) (gap : Gap) (input : List Placed) :
    Except Error (Taken (List Char) input) :=
  match input with
  | [] => .error .malformed
  | p :: rest =>
      let c := p.char
      let done' := gap.text.reverse ++ done
      let closing := if double then '"' else '\''
      if atDocumentMark (p :: rest) then .error .malformed
      else if isBreak c then
        further p rest (Nat.le_refl _) (readQuotedChars double done (gap.addBreak c) rest)
      else if isBlank c then
        further p rest (Nat.le_refl _) (readQuotedChars double done (gap.addBlank c) rest)
      else if c == closing then
        if !double && nextIs (· == closing) rest then
          further p rest (by simp) (readQuotedChars double (c :: done') .none (rest.drop 1))
        else .ok ⟨done', rest, Nat.le_succ _⟩
      else if double && c == '\\' then
        if nextIs isBreak rest then
          further p rest (by simp) (readQuotedChars double done' (.broken [] []) (rest.drop 1))
        else
          match readEscaped rest with
          | .error e => .error e
          | .ok t =>
              further p rest t.le (readQuotedChars double (t.value :: done') .none t.rest)
      else further p rest (Nat.le_refl _) (readQuotedChars double (c :: done') .none rest)
termination_by input.length
decreasing_by
  all_goals simp only [List.length_cons, List.length_drop]
  all_goals first
    | omega
    | (have le := t.le; omega)
where
  further (p : Placed) (rest : List Placed) {inner : List Placed}
      (le : inner.length ≤ rest.length) :
      Except Error (Taken (List Char) inner) → Except Error (Taken (List Char) (p :: rest))
    | .error e => .error e
    | .ok t => .ok ⟨t.value, t.rest, Nat.le_succ_of_le (Nat.le_trans t.le le)⟩

def readQuoted (double : Bool) : YamlReader (List Char) := do
  pure (← readQuotedChars double [] .none).reverse

end PathQuery.Yaml
