import PathQuery.Document.Yaml.Source
import PathQuery.Document.Yaml.Token
import PathQuery.Text.Reading

set_option autoImplicit false

namespace PathQuery.Yaml

open PathQuery.Text

structure Properties (α : Type) where
  anchor : Option α
  tag : Option String
deriving DecidableEq, Repr

def Properties.none {α : Type} : Properties α := ⟨.none, .none⟩

inductive Node (α : Type) where
  | alias (anchor : α)
  | scalar (properties : Properties α) (plain : Bool) (text : String)
  | sequence (properties : Properties α) (items : List (Node α))
  | mapping (properties : Properties α) (entries : List (Node α × Node α))

abbrev NamedNode := Node String

namespace Node

def empty : NamedNode := .scalar .none true ""

abbrev TokenReader (α : Type) := Reader Token Error α

abbrev Handles := List (String × String)

def standardHandles : Handles := [("!", "!"), ("!!", "tag:yaml.org,2002:")]

def resolveTag (handles : Handles) (name : TagName) : Except Error String :=
  if name.handle.isEmpty then .ok name.suffix
  else match handles.lookup name.handle with
    | some lead => .ok (lead ++ name.suffix)
    | none => .error .malformed

def readNodeAnchor : TokenReader (Option String) := do
  match ← Reader.peek with
  | some (.anchor name) => do
      Reader.skip 1
      pure (some name)
  | _ => pure none

def readNodeTag (handles : Handles) : TokenReader (Option String) := do
  match ← Reader.peek with
  | some (.tag name) => do
      Reader.skip 1
      pure (some (← resolveTag handles name))
  | _ => pure none

def readProperties (handles : Handles) : TokenReader (Properties String) := do
  let anchor ← readNodeAnchor
  let tag ← readNodeTag handles
  let later ← if anchor.isNone then readNodeAnchor else pure none
  pure ⟨anchor.or later, tag⟩

-- A scalar. The tag that consists of its mark alone says nothing.
def ofScalar (properties : Properties String) (plain : Bool) (text : String) : NamedNode :=
  if properties.tag = some "!" then .scalar { properties with tag := none } plain text
  else .scalar properties plain text

inductive Position where
  | flow
  | block
  -- In a block mapping, where a sequence need not be indented.
  | entry
deriving DecidableEq, Repr

inductive Content where
  | alias (name : String)
  | scalar (plain : Bool) (text : String)
  | flowSequence
  | flowMapping
  | sequence (indented : Bool)
  | mapping
  | none
deriving DecidableEq, Repr

def contentOf (position : Position) : Token → Content
  | .alias name => .alias name
  | .scalar plain text => .scalar plain text
  | .flowSequence => .flowSequence
  | .flowMapping => .flowMapping
  | .blockEntry => if position = .entry then .sequence false else .none
  | .blockSequence => if position = .flow then .none else .sequence true
  | .blockMapping => if position = .flow then .none else .mapping
  | _ => .none

-- The first of the tokens. There is always one left as long as the text goes on.
def peek : TokenReader Token := do
  match ← Reader.peek with
  | some t => pure t
  | none => Reader.fail .malformed

def expect (t : Token) : TokenReader Unit := do
  if (← peek) = t then Reader.skip 1 else Reader.fail .malformed

def skipIf (t : Token) : TokenReader Bool := do
  if (← peek) = t then do
    Reader.skip 1
    pure true
  else pure false

def isNoItem : Token → Bool
  | .blockEntry | .blockEnd => true
  | _ => false

def isNoBareItem : Token → Bool
  | .blockEntry | .key | .value | .blockEnd => true
  | _ => false

def isNoEntry : Token → Bool
  | .key | .value | .blockEnd => true
  | _ => false

def isNoFlowValue (closing t : Token) : Bool := t = .flowEntry || t = closing

def isNoFlowKey (closing t : Token) : Bool := t = .value || isNoFlowValue closing t

def unwritten (properties : Properties String) {rest input : List Token}
    (_ : rest.length ≤ input.length) : Except Error (Consumed NamedNode input) :=
  if lt : rest.length < input.length then .ok ⟨.scalar properties true "", rest, lt⟩
  else .error .malformed

mutual

-- Reads a node. The tokens of an indented sequence begin with the mark of its first item.
def read (handles : Handles) (position : Position) (input : List Token) :
    Except Error (Consumed NamedNode input) :=
  match readProperties handles input with
  | .error e => .error e
  | .ok ⟨_, [], _⟩ => .error .malformed
  | .ok ⟨properties, t :: rest, le⟩ =>
      have lt : rest.length < input.length := le
      let bare := decide ((t :: rest).length = input.length)
      match contentOf position t with
      | .scalar plain text => .ok ⟨ofScalar properties plain text, rest, lt⟩
      | .alias name => if bare then .ok ⟨.alias name, rest, lt⟩ else unwritten properties le
      | .flowSequence => do
          let items ← readFlowItems handles [] rest
          .ok ⟨.sequence properties items.value, items.rest, Nat.lt_of_le_of_lt items.le lt⟩
      | .flowMapping => do
          let entries ← readFlowEntries handles [] rest
          .ok ⟨.mapping properties entries.value, entries.rest, Nat.lt_of_le_of_lt entries.le lt⟩
      | .sequence indented => do
          let items ← readItems handles indented [] (if indented then rest.drop 1 else rest)
          have le : (if indented then rest.drop 1 else rest).length ≤ rest.length := by
            split
            · exact (List.drop_sublist 1 rest).length_le
            · exact Nat.le_refl _
          .ok ⟨.sequence properties items.value, items.rest,
            Nat.lt_of_le_of_lt (Nat.le_trans items.le le) lt⟩
      | .mapping => do
          let entries ← readEntries handles [] rest
          .ok ⟨.mapping properties entries.value, entries.rest, Nat.lt_of_le_of_lt entries.le lt⟩
      | .none => unwritten properties le
termination_by (input.length, 0)
decreasing_by
  · exact Prod.Lex.left _ _ lt
  · exact Prod.Lex.left _ _ lt
  · apply Prod.Lex.left
    split
    · exact Nat.lt_of_le_of_lt (List.drop_sublist 1 rest).length_le lt
    · exact lt
  · exact Prod.Lex.left _ _ lt

def readUnless (handles : Handles) (position : Position) (isNone : Token → Bool)
    (input : List Token) : Except Error (Taken NamedNode input) :=
  if input.head?.any isNone then .ok ⟨empty, input, Nat.le_refl _⟩
  else do
    let node ← read handles position input
    .ok ⟨node.value, node.rest, Nat.le_of_lt node.lt⟩
termination_by (input.length, 1)

-- Reads the items of a block sequence after the mark of the first one. A sequence that is not
-- indented has no end of its own.
def readItems (handles : Handles) (indented : Bool) (done : List NamedNode) (input : List Token) :
    Except Error (Taken (List NamedNode) input) := do
  let item ← readUnless handles .block (if indented then isNoItem else isNoBareItem) input
  let done := item.value :: done
  match _h : item.rest with
  | [] => .error .malformed
  | t :: rest =>
      have lt : rest.length < input.length := by have le := item.le; rw [_h] at le; exact le
      if t = .blockEntry then do
        let items ← readItems handles indented done rest
        .ok ⟨items.value, items.rest, Nat.le_trans items.le (Nat.le_of_lt lt)⟩
      else if !indented then .ok ⟨done.reverse, t :: rest, lt⟩
      else if t = .blockEnd then .ok ⟨done.reverse, rest, Nat.le_of_lt lt⟩
      else .error .malformed
termination_by (input.length, 2)
decreasing_by
  · exact Prod.Lex.right _ (by decide)
  · exact Prod.Lex.left _ _ lt

def readEntries (handles : Handles) (done : List (NamedNode × NamedNode)) (input : List Token) :
    Except Error (Taken (List (NamedNode × NamedNode)) input) :=
  match input with
  | .blockEnd :: rest => .ok ⟨done.reverse, rest, Nat.le_succ _⟩
  | .key :: rest => do
      let key ← readUnless handles .entry isNoEntry rest
      match _h : key.rest with
      | [] => .error .malformed
      | t :: rest' =>
          have lt : rest'.length < rest.length := by have le := key.le; rw [_h] at le; exact le
          if t = .value then
            let value ← readUnless handles .entry isNoEntry rest'
            let entries ← readEntries handles ((key.value, value.value) :: done) value.rest
            .ok ⟨entries.value, entries.rest, Nat.le_succ_of_le
              (Nat.le_trans entries.le (Nat.le_trans value.le (Nat.le_of_lt lt)))⟩
          else
            let entries ← readEntries handles ((key.value, empty) :: done) (t :: rest')
            .ok ⟨entries.value, entries.rest, Nat.le_succ_of_le (Nat.le_trans entries.le lt)⟩
  | _ => .error .malformed
termination_by (input.length, 0)
decreasing_by
  · exact Prod.Lex.left _ _ (Nat.lt_succ_self _)
  · exact Prod.Lex.left _ _ (Nat.lt_succ_of_lt lt)
  · exact Prod.Lex.left _ _ (Nat.lt_succ_of_le (Nat.le_trans value.le (Nat.le_of_lt lt)))
  · exact Prod.Lex.left _ _ (Nat.lt_succ_of_le lt)

-- Reads the items of a sequence in brackets. An item with a mark for a key is a mapping of one
-- entry.
def readFlowItems (handles : Handles) (done : List NamedNode) (input : List Token) :
    Except Error (Taken (List NamedNode) input) :=
  match input with
  | [] => .error .malformed
  | t :: rest =>
      if t = .flowSequenceEnd then .ok ⟨done.reverse, rest, Nat.le_succ _⟩
      else do
        let item : Consumed NamedNode (t :: rest) ←
          if t = .key then do
            let entry ← readFlowEntry handles .flowSequenceEnd rest
            .ok ⟨.mapping .none [entry.value], entry.rest, Nat.lt_succ_of_le entry.le⟩
          else read handles .flow (t :: rest)
        match _h : item.rest with
        | [] => .error .malformed
        | t' :: rest' =>
            have lt : rest'.length < rest.length := by
              have le := item.lt; rw [_h] at le; exact Nat.lt_of_succ_lt_succ le
            if t' = .flowSequenceEnd then
              .ok ⟨(item.value :: done).reverse, rest', Nat.le_succ_of_le (Nat.le_of_lt lt)⟩
            else if t' = .flowEntry then
              let items ← readFlowItems handles (item.value :: done) rest'
              .ok ⟨items.value, items.rest,
                Nat.le_succ_of_le (Nat.le_trans items.le (Nat.le_of_lt lt))⟩
            else .error .malformed
termination_by (input.length, 3)
decreasing_by
  all_goals first
    | exact Prod.Lex.right _ (by decide)
    | exact Prod.Lex.left _ _ (Nat.lt_succ_self _)
    | exact Prod.Lex.left _ _ (Nat.lt_succ_of_lt lt)

def readFlowEntries (handles : Handles) (done : List (NamedNode × NamedNode)) (input : List Token) :
    Except Error (Taken (List (NamedNode × NamedNode)) input) :=
  match input with
  | [] => .error .malformed
  | t :: rest =>
      if t = .flowMappingEnd then .ok ⟨done.reverse, rest, Nat.le_succ _⟩
      else do
        let item : Consumed (NamedNode × NamedNode) (t :: rest) ←
          if t = .key then do
            let entry ← readFlowEntry handles .flowMappingEnd rest
            .ok ⟨entry.value, entry.rest, Nat.lt_succ_of_le entry.le⟩
          else do
            let key ← read handles .flow (t :: rest)
            .ok ⟨(key.value, empty), key.rest, key.lt⟩
        match _h : item.rest with
        | [] => .error .malformed
        | t' :: rest' =>
            have lt : rest'.length < rest.length := by
              have le := item.lt; rw [_h] at le; exact Nat.lt_of_succ_lt_succ le
            if t' = .flowMappingEnd then
              .ok ⟨(item.value :: done).reverse, rest', Nat.le_succ_of_le (Nat.le_of_lt lt)⟩
            else if t' = .flowEntry then
              let items ← readFlowEntries handles (item.value :: done) rest'
              .ok ⟨items.value, items.rest,
                Nat.le_succ_of_le (Nat.le_trans items.le (Nat.le_of_lt lt))⟩
            else .error .malformed
termination_by (input.length, 3)
decreasing_by
  all_goals first
    | exact Prod.Lex.right _ (by decide)
    | exact Prod.Lex.left _ _ (Nat.lt_succ_self _)
    | exact Prod.Lex.left _ _ (Nat.lt_succ_of_lt lt)

-- Reads an entry in brackets after the mark for its key. In a sequence, the token in place of a key
-- that is not written is passed over.
def readFlowEntry (handles : Handles) (closing : Token) (input : List Token) :
    Except Error (Taken (NamedNode × NamedNode) input) := do
  let key ← readUnless handles .flow (isNoFlowKey closing) input
  let unwritten := input.head?.any (isNoFlowKey closing)
  let after := if closing = .flowSequenceEnd ∧ unwritten then key.rest.drop 1 else key.rest
  have le : after.length ≤ input.length := by
    simp only [after]
    split
    · exact Nat.le_trans (List.drop_sublist 1 _).length_le key.le
    · exact key.le
  match _h : after with
  | [] => .error .malformed
  | t :: rest =>
      have lt : rest.length < input.length := by rw [_h] at le; exact le
      if t = .value then
        let value ← readUnless handles .flow (isNoFlowValue closing) rest
        .ok ⟨(key.value, value.value), value.rest, Nat.le_trans value.le (Nat.le_of_lt lt)⟩
      else .ok ⟨(key.value, empty), t :: rest, lt⟩
termination_by (input.length, 2)
decreasing_by
  · exact Prod.Lex.right _ (by decide)
  · exact Prod.Lex.left _ _ lt

end

end Node

end PathQuery.Yaml
