import PathQuery.Gzip.Code

set_option autoImplicit false

namespace PathQuery.Gzip

open PathQuery.Text

abbrev Output := Array UInt8

-- Repeats what came `distance` bytes before, `count` bytes of it. Zeros stand before the first
-- byte.
def Output.repeatBack (out : Output) (distance : Nat) : (count : Nat) → Output
  | 0 => out
  | count + 1 =>
      let b := if distance ≤ out.size then (out[out.size - distance]?).getD 0 else 0
      Output.repeatBack (out.push b) distance count

-- The least lengths of references and the bits that are added to them, by symbol from 257 on.
def lengthRanges : List (Nat × Nat) :=
  [(3, 0), (4, 0), (5, 0), (6, 0), (7, 0), (8, 0), (9, 0), (10, 0), (11, 1), (13, 1), (15, 1),
    (17, 1), (19, 2), (23, 2), (27, 2), (31, 2), (35, 3), (43, 3), (51, 3), (59, 3), (67, 4),
    (83, 4), (99, 4), (115, 4), (131, 5), (163, 5), (195, 5), (227, 5), (258, 0)]

-- The least distances of references and the bits that are added to them, by symbol.
def distanceRanges : List (Nat × Nat) :=
  [(1, 0), (2, 0), (3, 0), (4, 0), (5, 1), (7, 1), (9, 2), (13, 2), (17, 3), (25, 3), (33, 4),
    (49, 4), (65, 5), (97, 5), (129, 6), (193, 6), (257, 7), (385, 7), (513, 8), (769, 8),
    (1025, 9), (1537, 9), (2049, 10), (3073, 10), (4097, 11), (6145, 11), (8193, 12), (12289, 12),
    (16385, 13), (24577, 13)]

def readWithin (ranges : List (Nat × Nat)) (symbol : Nat) : BitReader Nat :=
  match ranges[symbol]? with
  | none => Reader.fail .corrupt
  | some (least, bits) => do pure (least + (← readNumber bits))

structure Codes where
  -- For bytes, the end of the block and the lengths of references.
  literal : Code
  distance : Code

inductive Symbol where
  | byte (b : UInt8)
  | endOfBlock
  | reference (length : Nat)
deriving DecidableEq, Repr

def Symbol.ofNat (n : Nat) : Symbol :=
  if n < 256 then .byte (UInt8.ofNat n)
  else if n = 256 then .endOfBlock
  else .reference (n - 257)

def readReference (codes : Codes) (length : Nat) : BitReader (Nat × Nat) := do
  let count ← readWithin lengthRanges length
  let distance ← readWithin distanceRanges (← codes.distance.read)
  pure (count, distance)

def inflateSymbols (codes : Codes) (out : Output) (bits : List Bool) :
    Except Error (Taken Output bits) :=
  match bits with
  | [] => .error .truncated
  | b :: rest =>
      match (codes.literal.step b).read rest with
      | .error e => .error e
      | .ok ⟨n, rest', le⟩ =>
          match Symbol.ofNat n with
          | .byte b =>
              match inflateSymbols codes (out.push b) rest' with
              | .error e => .error e
              | .ok t => .ok ⟨t.value, t.rest, Nat.le_succ_of_le (Nat.le_trans t.le le)⟩
          | .endOfBlock => .ok ⟨out, rest', Nat.le_succ_of_le le⟩
          | .reference length =>
              match readReference codes length rest' with
              | .error e => .error e
              | .ok ⟨(count, distance), rest'', le'⟩ =>
                  match inflateSymbols codes (out.repeatBack distance count) rest'' with
                  | .error e => .error e
                  | .ok t =>
                      .ok ⟨t.value, t.rest, Nat.le_succ_of_le
                        (Nat.le_trans t.le (Nat.le_trans le' le))⟩
termination_by bits.length
decreasing_by all_goals simp only [List.length_cons]; omega

def readBytes (out : Output) : (count : Nat) → BitReader Output
  | 0 => pure out
  | count + 1 => do readBytes (out.push (UInt8.ofNat (← readNumber 8))) count

-- A stored block begins with a byte of its own and gives its length twice.
def readStored (out : Output) : BitReader Output := do
  skipToByte
  let length ← readNumber 16
  let complement ← readNumber 16
  if length + complement = 0xffff then readBytes out length else Reader.fail .corrupt

def standardLengths : List Nat :=
  List.replicate 144 8 ++ List.replicate 112 9 ++ List.replicate 24 7 ++ List.replicate 8 8

def standardCodes : Except Error Codes := do
  .ok ⟨← Code.ofLengths standardLengths, ← Code.ofLengths (List.replicate 32 5)⟩

-- The order in which the lengths of words are given for the code of a description.
def descriptionOrder : List Nat :=
  [16, 17, 18, 0, 8, 7, 9, 6, 10, 5, 11, 4, 12, 3, 13, 2, 14, 1, 15]

def readNumbers (bits : Nat) : (count : Nat) → BitReader (List Nat)
  | 0 => pure []
  | count + 1 => do
      let n ← readNumber bits
      pure (n :: (← readNumbers bits count))

-- The lengths that a symbol of a description stands for: itself, the last one repeated, or a number
-- of zeros.
def readRun (last : Option Nat) (symbol : Nat) : BitReader (List Nat) :=
  match symbol, last with
  | 16, some length => do pure (List.replicate (3 + (← readNumber 2)) length)
  | 16, none => Reader.fail .corrupt
  | 17, _ => do pure (List.replicate (3 + (← readNumber 3)) 0)
  | 18, _ => do pure (List.replicate (11 + (← readNumber 7)) 0)
  | length, _ => pure [length]

-- Lengths until there are `count` of them, given those so far with the latest first. No run may go
-- beyond.
def readLengths (code : Code) (count : Nat) (done : List Nat) (bits : List Bool) :
    Except Error (Taken (List Nat) bits) :=
  if count < done.length then .error .corrupt
  else if done.length = count then .ok ⟨done.reverse, bits, Nat.le_refl _⟩
  else match bits with
    | [] => .error .truncated
    | b :: rest =>
        match (code.step b).read rest with
        | .error e => .error e
        | .ok ⟨symbol, rest', le⟩ =>
            match readRun done.head? symbol rest' with
            | .error e => .error e
            | .ok ⟨run, rest'', le'⟩ =>
                match readLengths code count (run ++ done) rest'' with
                | .error e => .error e
                | .ok t =>
                    .ok ⟨t.value, t.rest, Nat.le_succ_of_le
                      (Nat.le_trans t.le (Nat.le_trans le' le))⟩
termination_by bits.length
decreasing_by simp only [List.length_cons]; omega

def readCodes : BitReader Codes := do
  let literals := 257 + (← readNumber 5)
  let distances := 1 + (← readNumber 5)
  let count := 4 + (← readNumber 4)
  if 286 < literals || 30 < distances then Reader.fail .corrupt
  else
    let given ← readNumbers 3 count
    let lengths := (List.range 19).map fun n =>
      ((descriptionOrder.zip given).lookup n).getD 0
    let code ← Code.ofLengths lengths
    let lengths ← readLengths code (literals + distances) []
    let literal ← Code.ofLengths (lengths.take literals)
    let distance ← Code.ofLengths (lengths.drop literals)
    pure ⟨literal, distance⟩

def inflateBlock (out : Output) : BitReader Output := do
  match ← readNumber 2 with
  | 0 => readStored out
  | 1 => inflateSymbols (← standardCodes) out
  | 2 => inflateSymbols (← readCodes) out
  | _ => Reader.fail .corrupt

def inflate (out : Output) (bits : List Bool) : Except Error (Taken Output bits) :=
  match bits with
  | [] => .error .truncated
  | last :: rest =>
      match inflateBlock out rest with
      | .error e => .error e
      | .ok ⟨out, rest', le⟩ =>
          if last then .ok ⟨out, rest', Nat.le_succ_of_le le⟩
          else match inflate out rest' with
            | .error e => .error e
            | .ok t => .ok ⟨t.value, t.rest, Nat.le_succ_of_le (Nat.le_trans t.le le)⟩
termination_by bits.length
decreasing_by simp only [List.length_cons]; omega

end PathQuery.Gzip
