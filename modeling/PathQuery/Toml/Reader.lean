import PathQuery.Toml.Item
import PathQuery.Toml.Word

set_option autoImplicit false

namespace PathQuery.Toml

open PathQuery.Text

def readPaddedName : TomlReader String := do
  skipBlanks
  let name ← readName
  skipBlanks
  pure name

def readNames (done : List String) (input : List Char) :
    Except Error (Taken (List String) input) := do
  let t ← readPaddedName input
  match _h : t.rest with
  | [] => .ok ⟨(t.value :: done).reverse, t.rest, t.le⟩
  | c :: rest =>
      have lt : rest.length < input.length := by
        have le := t.le
        rw [_h] at le
        exact le
      if c = '.' then do
        let names ← readNames (t.value :: done) rest
        .ok ⟨names.value, names.rest, Nat.le_trans names.le (Nat.le_of_lt lt)⟩
      else .ok ⟨(t.value :: done).reverse, t.rest, t.le⟩
termination_by input.length
decreasing_by exact lt

def depthLimit : Nat := 79

def readKey : TomlReader (List String) := do
  let names ← readNames []
  if names.length ≤ depthLimit then pure names else Reader.fail .malformed

def skipComment : TomlReader Unit := do
  if ← skipIf '#' then
    let _ ← Reader.takeWhile isTextChar

def skipLineEnd : TomlReader Unit := do
  skipBlanks
  skipComment
  match ← Reader.next? with
  | none => pure ()
  | some c => if c = '\n' then pure () else Reader.fail .malformed

def wordValue? (word : List Char) : Option Item :=
  if word = "true".toList then some (.boolean true)
  else if word = "false".toList then some (.boolean false)
  else if isMoment word then some (.moment (String.ofList word))
  else match integer? word, float? word with
    | some n, _ => some (.integer n)
    | none, some x => some (.float x)
    | none, none => none

def hasTimeAhead : List Char → Bool
  | ' ' :: c :: _ => c.isDigit
  | _ => false

-- Reads a value that is written as a word. Between a date and a time there may be a blank.
def readWord : TomlReader Item := do
  let word ← Reader.takeWhile isWordChar
  if isDate word && hasTimeAhead (← Reader.ahead) then do
    Reader.skip 1
    let time ← Reader.takeWhile isWordChar
    if isOffsetTime time then pure (.moment (String.ofList (word ++ [' '] ++ time)))
    else Reader.fail .malformed
  else match wordValue? word with
    | some v => pure v
    | none => Reader.fail .malformed

def skipSpace (inComment : Bool) : (input : List Char) → Except Error (Taken Unit input)
  | [] => .ok ⟨(), [], Nat.le_refl _⟩
  | c :: cs =>
      let further (r : Except Error (Taken Unit cs)) : Except Error (Taken Unit (c :: cs)) :=
        r.map fun t => ⟨(), t.rest, Nat.le_succ_of_le t.le⟩
      if c = '\n' then further (skipSpace false cs)
      else if inComment then
        if isTextChar c then further (skipSpace true cs) else .error .malformed
      else if isBlank c then further (skipSpace false cs)
      else if c = '#' then further (skipSpace true cs)
      else .ok ⟨(), c :: cs, Nat.le_refl _⟩

mutual

def readValue (depth : Nat) (input : List Char) : Except Error (Taken Item input) :=
  match input with
  | [] => .error .malformed
  | c :: rest =>
      if c = '"' ∨ c = '\'' then do
        let t ← readString c true rest
        .ok ⟨.string t.value, t.rest, Nat.le_succ_of_le t.le⟩
      else if c = '[' ∨ c = '\x7b' then
        match depth with
        | 0 => .error .malformed
        | depth + 1 =>
            if c = '[' then do
              let t ← readItems depth [] rest
              .ok ⟨.array t.value.reverse, t.rest, Nat.le_succ_of_le t.le⟩
            else do
              let t ← readInline depth rest
              .ok ⟨.table .inline t.value, t.rest, Nat.le_succ_of_le t.le⟩
      else readWord (c :: rest)
termination_by (input.length, 0)
decreasing_by all_goals exact Prod.Lex.left _ _ (by simp)

-- Reads the items of an array up to its closing bracket, the latest first. A comma may follow the
-- last one.
def readItems (depth : Nat) (done : List Item) (input : List Char) :
    Except Error (Taken (List Item) input) := do
  let space ← skipSpace false input
  match _h : space.rest with
  | [] => .error .malformed
  | c :: rest =>
      have le : rest.length < input.length := by
        have le := space.le
        rw [_h] at le
        exact le
      if c = ']' then .ok ⟨done, rest, Nat.le_of_lt le⟩
      else do
        let item ← readValue depth (c :: rest)
        let space' ← skipSpace false item.rest
        match _h' : space'.rest with
        | [] => .error .malformed
        | d :: rest' =>
            have le' : rest'.length < input.length := by
              have lt := Nat.le_trans space'.le item.le
              rw [_h'] at lt
              exact Nat.lt_of_lt_of_le lt le
            if d = ']' then .ok ⟨item.value :: done, rest', Nat.le_of_lt le'⟩
            else if d = ',' then do
              let items ← readItems depth (item.value :: done) rest'
              .ok ⟨items.value, items.rest, Nat.le_trans items.le (Nat.le_of_lt le')⟩
            else .error .malformed
termination_by (input.length, 1)
decreasing_by
  · exact Prod.Lex.right' _ le (by decide)
  · exact Prod.Lex.left _ _ le'

def readInline (depth : Nat) (input : List Char) : Except Error (Taken Entries input) :=
  match skipBlanks input with
  | .error e => .error e
  | .ok ⟨_, [], _⟩ => .error .malformed
  | .ok ⟨_, c :: rest, le⟩ =>
      if c = '\x7d' then .ok ⟨[], rest, Nat.le_of_lt le⟩
      else do
        let t ← readPairs depth [] (c :: rest)
        .ok ⟨t.value, t.rest, Nat.le_trans t.le le⟩
termination_by (input.length, 2)
decreasing_by exact Prod.Lex.right' _ le (by decide)

-- Reads the pairs of a table in braces, and the closing one. No comma may follow the last pair.
def readPairs (depth : Nat) (entries : Entries) (input : List Char) :
    Except Error (Taken Entries input) := do
  let key ← (do let key ← readKey; expect '='; skipBlanks; pure key : TomlReader _) input
  let value ← readValue depth key.rest
  let entries ← Entries.define key.value value.value .header entries
  let blanks ← (skipBlanks : TomlReader Unit) value.rest
  match _h : blanks.rest with
  | [] => .error .malformed
  | c :: rest =>
      have lt : rest.length < input.length := by
        have le := Nat.le_trans blanks.le (Nat.le_trans value.le key.le)
        rw [_h] at le
        exact le
      if c = '\x7d' then .ok ⟨entries, rest, Nat.le_of_lt lt⟩
      else if c = ',' then do
        let t ← readPairs depth entries rest
        .ok ⟨t.value, t.rest, Nat.le_trans t.le (Nat.le_of_lt lt)⟩
      else .error .malformed
termination_by (input.length, 1)
decreasing_by
  · exact Prod.Lex.right' _ key.le (by decide)
  · exact Prod.Lex.left _ _ lt

end

inductive Line where
  | entry (key : List String) (value : Item)
  | table (key : List String)
  | element (key : List String)

def readHeader : TomlReader Line := do
  let double ← skipIf '['
  let key ← readKey
  expect ']'
  if double then expect ']'
  skipLineEnd
  pure (if double then .element key else .table key)

def readEntry : TomlReader Line := do
  let key ← readKey
  expect '='
  skipBlanks
  let value ← readValue depthLimit
  skipLineEnd
  pure (.entry key value)

def readLine (c : Char) (rest : List Char) : Except Error (Consumed Line (c :: rest)) :=
  if c = '[' then do
    let t ← readHeader rest
    .ok ⟨t.value, t.rest, Nat.lt_succ_of_le t.le⟩
  else do
    let t ← readEntry (c :: rest)
    if lt : t.rest.length < (c :: rest).length then .ok ⟨t.value, t.rest, lt⟩
    else .error .malformed

def readLines (done : List Line) (input : List Char) : Except Error (List Line) :=
  match skipSpace false input with
  | .error e => .error e
  | .ok ⟨_, [], _⟩ => .ok done.reverse
  | .ok ⟨_, c :: rest, _le⟩ =>
      match readLine c rest with
      | .error e => .error e
      | .ok t => readLines (t.value :: done) t.rest
termination_by input.length
decreasing_by exact Nat.lt_of_lt_of_le t.lt _le

-- Adds a line to a document. Entries belong to the table of the last header.
def addLine (document : Entries × List String) : Line → Except Error (Entries × List String)
  | .entry key value => do
      let (entries, header) := document
      .ok (← Entries.change false (Entries.define key value) header .header entries, header)
  | .table key => do .ok (← Entries.beginTable key document.1, key)
  | .element key => do .ok (← Entries.beginElement key document.1, key)

def read (text : String) : Except Error Entries := do
  let chars := normalize text.toList
  let lines ← readLines [] (if chars.head? = some '\ufeff' then chars.drop 1 else chars)
  let (entries, _) ← lines.foldlM addLine ([], [])
  .ok entries

end PathQuery.Toml
