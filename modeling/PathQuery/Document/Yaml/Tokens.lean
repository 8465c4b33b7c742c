import PathQuery.Document.Yaml.Layout
import PathQuery.Document.Yaml.Name
import PathQuery.Document.Yaml.Scalar.Block
import PathQuery.Document.Yaml.Scalar.Plain
import PathQuery.Document.Yaml.Scalar.Quoted

set_option autoImplicit false

namespace PathQuery.Yaml

open PathQuery.Text

-- Passes over blanks, comments and breaks between tokens, and says whether a key may begin after
-- them. A tab is no indentation, and none may stand where a key of a block could begin.
def skipGap (inFlow inComment allowed : Bool) : (input : List Placed) → Taken Bool input
  | [] => ⟨allowed, [], Nat.le_refl _⟩
  | p :: rest =>
      let c := p.char
      let further (t : Taken Bool rest) : Taken Bool (p :: rest) :=
        ⟨t.value, t.rest, Nat.le_succ_of_le t.le⟩
      if isBreak c then further (skipGap inFlow false (allowed || !inFlow) rest)
      else if inComment || c == ' ' || (c == '\t' && (inFlow || !allowed)) ||
          (c == byteOrderMark && p.place.index == 0) then
        further (skipGap inFlow inComment allowed rest)
      else if c == '#' then further (skipGap inFlow true allowed rest)
      else ⟨allowed, p :: rest, Nat.le_refl _⟩

-- The characters that have a meaning of their own at the beginning of a token.
def indicators : List Char := "-?:,[]\x7b\x7d#&*!|>'\"%@`".toList

def beginsPlain (inFlow : Bool) (input : List Placed) : Bool :=
  let next := input.drop 1
  nextIs (fun c => !isBlank c && !isBreak c && c ∉ indicators) input ||
    (nextIs (· == '-') input && !nextIs isBlank next) ||
    (!inFlow && nextIs (· ∈ ['?', ':']) input && !atGap next)

namespace Layout

def addPlain (s : Layout) (p : Placed) : YamlReader Layout := do
  let column := s.columns.head?.elim 0 (· + 1)
  let (done, gap) ← PlainLayout.readWords ⟨s.inFlow, column⟩ [p.char] .none
  let s ← s.addWord p.place (.scalar true (String.ofList done.reverse))
  pure (if gap.isBroken then s.allowKey true else s)

def addQuoted (s : Layout) (p : Placed) : YamlReader Layout := do
  let text ← readQuoted (p.char == '"')
  s.addWord p.place (.scalar false (String.ofList text))

def addBlockScalar (s : Layout) (p : Placed) : YamlReader Layout := do
  let s ← s.dropKey
  let text ← readBlock (p.char == '>') (s.columns.head?.getD 0)
  pure ((s.allowKey true).push (.scalar false (String.ofList text)))

def addToken (s : Layout) (p : Placed) : YamlReader Layout := do
  let c := p.char
  let next ← Reader.ahead
  if c == '%' && p.place.column == 0 then
    let s ← s.closeAll
    pure (s.push (← readDirective))
  else if atDocumentMark (p :: next) then
    Reader.skip 2
    pure ((← s.closeAll).push (if c == '-' then .documentStart else .documentEnd))
  else if c == '[' then s.openFlow p.place .flowSequence
  else if c == '\x7b' then s.openFlow p.place .flowMapping
  else if c == ']' then s.closeFlow .flowSequenceEnd
  else if c == '\x7d' then s.closeFlow .flowMappingEnd
  else if c == ',' then s.addFlowEntry
  else if c == '-' && atGap next then s.addBlockEntry p.place
  else if c == '?' && (s.inFlow || atGap next) then s.addKey p.place
  else if c == ':' && (s.inFlow || atGap next) then s.addValue p.place
  else if c == '*' then s.addWord p.place (.alias (← readAnchorName))
  else if c == '&' then s.addWord p.place (.anchor (← readAnchorName))
  else if c == '!' then s.addWord p.place (.tag (← readTag s.inFlow))
  else if (c == '|' || c == '>') && !s.inFlow then s.addBlockScalar p
  else if c == '\'' || c == '"' then s.addQuoted p
  else if beginsPlain s.inFlow (p :: next) then s.addPlain p
  else Reader.fail .malformed

end Layout

def tokensFrom (finish : Place) (s : Layout) (input : List Placed) : List Token :=
  let here := (input.head?.map Placed.place).getD finish
  match s.expireKeys here with
  | .error _ => s.certain
  | .ok s =>
      let gap := skipGap s.inFlow false s.keyAllowed input
      let s' := s.allowKey gap.value
      match _h : gap.rest with
      | [] =>
          match s'.arrive finish >>= Layout.closeAll with
          | .error _ => s.certain
          | .ok s => (s.push .streamEnd).tokens.reverse
      | p :: rest =>
          match s'.arrive p.place with
          | .error _ => s.certain
          | .ok arrived =>
              match arrived.addToken p rest with
              | .error _ => s.certain
              | .ok t => tokensFrom finish t.value t.rest
termination_by input.length
decreasing_by
  have := gap.le
  have := t.le
  simp only [_h, List.length_cons] at *
  omega

def tokens (text : Source) : List Token := tokensFrom text.finish .start text.chars

end PathQuery.Yaml
