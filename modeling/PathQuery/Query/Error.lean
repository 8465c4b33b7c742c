import PathQuery.Query.Dialect
import PathQuery.Regex.Error

set_option autoImplicit false

namespace PathQuery

inductive QueryError where
  -- A segment is no pattern. The segment is given with its index and with the place in bytes where
  -- it begins.
  | malformedPattern (segment : String) (index offset : Nat) (reason : Regex.Error)
  -- A step to the parent stands where there is nothing to climb out of.
  | emptyPathUnderflow (step : Nat)
  | unknownDialect (name : String)
deriving DecidableEq, Repr

namespace QueryError

def malformedMessage (segment : String) (index offset : Nat) (reason : String) : String :=
  "Malformed pattern '" ++ segment ++ "' in segment " ++ toString index ++ " (offset " ++
    toString offset ++ "): " ++ reason

def message : QueryError → String
  | .malformedPattern segment index offset reason =>
      malformedMessage segment index offset reason.message
  | .emptyPathUnderflow step =>
      "Step " ++ toString step ++ " climbs above the start of the path"
  | .unknownDialect name =>
      "Unknown query dialect '" ++ name ++ "', expected one of: regex, glob, grep, literal"

end QueryError

def Dialect.ofName (text : String) : Except QueryError Dialect :=
  match Dialect.ofName? text with
  | some d => .ok d
  | none => .error (.unknownDialect text)

end PathQuery
