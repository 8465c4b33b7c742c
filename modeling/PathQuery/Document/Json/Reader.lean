import PathQuery.Document.Json.Number
import PathQuery.Text.Utf8
import PathQuery.Unicode.CodeSet

set_option autoImplicit false

namespace PathQuery.Json

open PathQuery.Text

def isSpace (c : Char) : Bool := c == ' ' || c == '\n' || c == '\t' || c == '\r'

def peekPastSpace (ending : Error) : JsonReader Char := do
  let _ ← Reader.takeWhile isSpace
  match ← Reader.peek with
  | some c => pure c
  | none => Reader.fail ending

def expect : List Char → JsonReader Unit
  | [] => pure ()
  | c :: cs => do
      match ← Reader.next? with
      | none => Reader.fail .endOfInput
      | some d => if c = d then expect cs else Reader.fail .malformed

def hasBytes (n : Nat) (s : List Char) : Bool := n ≤ Utf8.size (s.take n)

def readUnit : JsonReader Nat := do
  let ahead ← Reader.ahead
  if !hasBytes 4 ahead then Reader.fail .endOfInput
  else
    let digits := ahead.take 4
    if digits.all (fun c => (Unicode.hexDigit? c).isSome) then do
      Reader.skip 4
      pure (Unicode.hexValue (String.ofList digits))
    else Reader.fail .malformed

def isHighUnit (n : Nat) : Bool := 0xd800 ≤ n && n < 0xdc00

def isLowUnit (n : Nat) : Bool := 0xdc00 ≤ n && n < 0xe000

def readCode : JsonReader Char := do
  let n ← readUnit
  if isLowUnit n then Reader.fail .malformed
  else if isHighUnit n then
    expect ['\\', 'u']
    let low ← readUnit
    if isLowUnit low then pure (Char.ofNat (0x10000 + (n - 0xd800) * 0x400 + (low - 0xdc00)))
    else Reader.fail .malformed
  else pure (Char.ofNat n)

def readEscape : JsonReader Char := do
  match ← Reader.next? with
  | none => Reader.fail .endOfInput
  | some c =>
      match c with
      | '"' | '\\' | '/' => pure c
      | 'b' => pure '\x08'
      | 'f' => pure '\x0c'
      | 'n' => pure '\n'
      | 'r' => pure '\r'
      | 't' => pure '\t'
      | 'u' => readCode
      | _ => Reader.fail .malformed

def readChars (done : List Char) (input : List Char) : Except Error (Taken (List Char) input) :=
  match input with
  | [] => .error .endOfInput
  | c :: cs =>
      if c = '"' then .ok ⟨done, cs, Nat.le_succ _⟩
      else if c = '\\' then
        match readEscape cs with
        | .error e => .error e
        | .ok ⟨d, rest, le⟩ =>
            match readChars (d :: done) rest with
            | .error e => .error e
            | .ok t => .ok ⟨t.value, t.rest, by
                have := t.le; simp only [List.length_cons]; omega⟩
      else if c < ' ' then .error .malformed
      else match readChars (c :: done) cs with
        | .error e => .error e
        | .ok t => .ok ⟨t.value, t.rest, Nat.le_succ_of_le t.le⟩
termination_by input.length
decreasing_by all_goals simp only [List.length_cons]; omega

def readString : JsonReader String := do
  let chars ← readChars []
  pure (String.ofList chars.reverse)

def readSeparator (first : Bool) (closing : Char) : JsonReader Bool := do
  let c ← peekPastSpace .endOfInput
  if c = closing then do
    Reader.skip 1
    pure false
  else if first then pure true
  else if c = ',' then do
    Reader.skip 1
    let d ← peekPastSpace .endOfInput
    if d = closing then Reader.fail .malformed else pure true
  else Reader.fail .malformed

def readKey : JsonReader String := do
  match ← Reader.next? with
  | some '"' => do
      let key ← readString
      let c ← peekPastSpace .endOfInput
      if c = ':' then do
        Reader.skip 1
        pure key
      else Reader.fail .malformed
  | _ => Reader.fail .malformed

def readScalar (c : Char) : JsonReader Datum :=
  if c.isDigit then readNumber false c
  else if c = '-' then readNegative
  else if c = 'n' then do expect "ull".toList; pure .null
  else if c = 't' then do expect "rue".toList; pure (.bool true)
  else if c = 'f' then do expect "alse".toList; pure (.bool false)
  else if c = '"' then do pure (.string (← readString))
  else Reader.fail .malformed

def depthLimit : Nat := 127

mutual

def readValue (depth : Nat) (input : List Char) : Except Error (Consumed Datum input) :=
  match peekPastSpace .endOfInput input with
  | .error e => .error e
  | .ok ⟨_, [], _⟩ => .error .endOfInput
  | .ok ⟨_, c :: cs, le⟩ =>
      have lt {rest : List Char} (h : rest.length ≤ cs.length) : rest.length < input.length := by
        simp only [List.length_cons] at le; omega
      if c = '[' then
        match depth with
        | 0 => .error .malformed
        | depth + 1 =>
            match readItems depth true [] cs with
            | .error e => .error e
            | .ok t => .ok ⟨.sequence t.value.reverse, t.rest, lt t.le⟩
      else if c = '\x7b' then
        match depth with
        | 0 => .error .malformed
        | depth + 1 =>
            match readEntries depth true [] cs with
            | .error e => .error e
            | .ok t => .ok ⟨.mapping t.value.reverse, t.rest, lt t.le⟩
      else
        match readScalar c cs with
        | .error e => .error e
        | .ok t => .ok ⟨t.value, t.rest, lt t.le⟩
termination_by 2 * input.length
decreasing_by all_goals simp only [List.length_cons] at le; omega

def readItems (depth : Nat) (first : Bool) (done : List Datum) (input : List Char) :
    Except Error (Taken (List Datum) input) :=
  match readSeparator first ']' input with
  | .error e => .error e
  | .ok ⟨false, rest, le⟩ => .ok ⟨done, rest, le⟩
  | .ok ⟨true, rest, le⟩ =>
      match readValue depth rest with
      | .error e => .error e
      | .ok ⟨item, rest', lt⟩ =>
          match readItems depth false (item :: done) rest' with
          | .error e => .error e
          | .ok t => .ok ⟨t.value, t.rest, by have := t.le; omega⟩
termination_by 2 * input.length + 1

def readEntries (depth : Nat) (first : Bool) (done : List (Datum × Datum)) (input : List Char) :
    Except Error (Taken (List (Datum × Datum)) input) :=
  match readSeparator first '\x7d' input with
  | .error e => .error e
  | .ok ⟨false, rest, le⟩ => .ok ⟨done, rest, le⟩
  | .ok ⟨true, rest, le⟩ =>
      match readKey rest with
      | .error e => .error e
      | .ok ⟨key, rest', le'⟩ =>
          match readValue depth rest' with
          | .error e => .error e
          | .ok ⟨item, rest'', lt⟩ =>
              match readEntries depth false ((.string key, item) :: done) rest'' with
              | .error e => .error e
              | .ok t => .ok ⟨t.value, t.rest, by have := t.le; omega⟩
termination_by 2 * input.length + 1

end

-- Reads a whole text. Only blanks may follow the value.
def read (text : String) : Except Error Value :=
  match readValue depthLimit text.toList with
  | .error e => .error e
  | .ok t =>
      match t.value.value? with
      | none => .error .malformed
      | some v => if t.rest.all isSpace then .ok v else .error .malformed

end PathQuery.Json
