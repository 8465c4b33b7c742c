set_option autoImplicit false

namespace PathQuery.CommandLine

inductive Switch where
  | ignoreCase
  | showNames
  | dialect
  | maxResults
  | path
  | settings
deriving DecidableEq, Repr

namespace Switch

def takesValue : Switch → Bool
  | .ignoreCase | .showNames => false
  | _ => true

def letters : List (Char × Switch) :=
  [('d', .dialect), ('i', .ignoreCase), ('n', .maxResults), ('m', .path)]

def names : List (String × Switch) :=
  [("dialect", .dialect), ("ignore-case", .ignoreCase), ("max-results", .maxResults),
    ("names", .showNames), ("match", .path), ("config", .settings)]

def name (s : Switch) : String := ((names.find? (·.2 = s)).map Prod.fst).getD ""

end Switch

inductive UsageError where
  | unexpected (argument : String)
  | missingValue (switch : Switch)
  | unneededValue (switch : Switch)
  | invalidValue (switch : Switch) (value : String)
  | repeated (switch : Switch)
  | missingQuery
deriving DecidableEq, Repr

def UsageError.message : UsageError → String
  | .unexpected argument => "unexpected argument '" ++ argument ++ "' found"
  | .missingValue s => "a value is required for '--" ++ s.name ++ "' but none was supplied"
  | .unneededValue s => "unexpected value for '--" ++ s.name ++ "' found; no more were expected"
  | .invalidValue s value => "invalid value '" ++ value ++ "' for '--" ++ s.name ++ "'"
  | .repeated s => "the argument '--" ++ s.name ++ "' cannot be used multiple times"
  | .missingQuery => "the following required arguments were not provided: <QUERY>"

structure Arguments where
  query : String
  file : Option String
  dialect : Option String
  ignoreCase : Bool
  maxResults : Option Nat
  showNames : Bool
  -- Paths that are to be matched, instead of a search.
  paths : List String
  settings : Option String
deriving DecidableEq, Repr

structure Given where
  operands : List String
  switches : List (Switch × String)
  pending : Option Switch
deriving DecidableEq, Repr

namespace Given

def none : Given := ⟨[], [], .none⟩

-- A count in decimal digits of at most 64 bits. A plus sign may stand in front.
def count? (value : String) : Option Nat :=
  let digits := match value.toList with
    | '+' :: rest => rest
    | digits => digits
  let n := digits.foldl (fun n c => 10 * n + (c.toNat - '0'.toNat)) 0
  if !digits.isEmpty && digits.all Char.isDigit && n < Nat.pow 2 64 then some n else .none

def isValid (s : Switch) (value : String) : Bool :=
  match s with
  | .maxResults => (count? value).isSome
  | .settings => value ≠ ""
  | _ => true

-- Gives an option. Only paths can be given more than once.
def add (g : Given) (s : Switch) (value : String) : Except UsageError Given :=
  if s ≠ .path ∧ g.switches.any (·.1 = s) then .error (.repeated s)
  else if !isValid s value then .error (.invalidValue s value)
  else .ok { g with switches := (s, value) :: g.switches, pending := .none }

def addOperand (g : Given) (argument : String) : Except UsageError Given :=
  if g.operands.length < 2 then .ok { g with operands := argument :: g.operands }
  else .error (.unexpected argument)

def addNamed (g : Given) (argument : List Char) : Except UsageError Given :=
  let name := String.ofList (argument.takeWhile (· ≠ '='))
  match Switch.names.lookup name, argument.dropWhile (· ≠ '=') with
  | .none, _ => .error (.unexpected (String.ofList argument))
  | some s, _ :: value =>
      if s.takesValue then g.add s (String.ofList value) else .error (.unneededValue s)
  | some s, [] => if s.takesValue then .ok { g with pending := some s } else g.add s ""

-- Adds options that are given by letters. The first one with a value takes all that follows.
def addLetters (g : Given) : List Char → Except UsageError Given
  | [] => .ok g
  | c :: rest => do
      match Switch.letters.lookup c with
      | .none => .error (.unexpected (String.ofList (c :: rest)))
      | some s =>
          if s.takesValue then
            match rest with
            | [] => .ok { g with pending := some s }
            | '=' :: value => g.add s (String.ofList value)
            | value => g.add s (String.ofList value)
          else addLetters (← g.add s "") rest

def settle (g : Given) : Except UsageError Given :=
  match g.pending with
  | some s => .error (.missingValue s)
  | .none => .ok g

-- Adds an argument in front of two dashes. A single dash is no option.
def addArgument (g : Given) (argument : String) : Except UsageError Given := do
  match argument.toList with
  | '-' :: '-' :: rest => (← g.settle).addNamed rest
  | '-' :: c :: rest => (← g.settle).addLetters (c :: rest)
  | _ =>
      match g.pending with
      | some s => g.add s argument
      | .none => g.addOperand argument

def addAll (g : Given) : List String → Except UsageError Given
  | [] => g.settle
  | argument :: rest => do
      if argument = "--" then rest.foldlM addOperand (← g.settle)
      else addAll (← g.addArgument argument) rest

def value? (g : Given) (s : Switch) : Option String := g.switches.lookup s

def has (g : Given) (s : Switch) : Bool := g.switches.any (·.1 = s)

def toArguments (g : Given) : Except UsageError Arguments :=
  match g.operands.reverse with
  | [] => .error .missingQuery
  | query :: rest => .ok {
      query
      file := rest.head?
      dialect := g.value? .dialect
      ignoreCase := g.has .ignoreCase
      maxResults := (g.value? .maxResults).bind count?
      showNames := g.has .showNames
      paths := (g.switches.filter (·.1 = .path)).reverse.map Prod.snd
      settings := g.value? .settings }

end Given

def Arguments.read (arguments : List String) : Except UsageError Arguments := do
  (← Given.none.addAll arguments).toArguments

end PathQuery.CommandLine
