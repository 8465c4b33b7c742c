import PathQuery.CommandLine.Arguments
import PathQuery.Settings.Storage
import PathQuery.Tree.Search

set_option autoImplicit false

namespace PathQuery.CommandLine

structure Surroundings where
  files : Files
  home : String
  input : List UInt8

inductive Failure where
  | load (e : LoadError)
  | unknownDialect (e : QueryError)
  | refusedQuery (dialect : Dialect) (source : String) (e : QueryError)
deriving DecidableEq, Repr

def Failure.message : Failure → String
  | .load e => e.message
  | .unknownDialect e => e.message
  | .refusedQuery dialect source e =>
      "Invalid " ++ dialect.name ++ " query '" ++ source ++ "': " ++ e.message

structure Report where
  lines : List String
  -- Whether something was found, if the number of lines does not tell.
  found : Option Bool
deriving DecidableEq, Repr

structure Plan where
  query : Query
  -- How many results are shown at most, if there is a bound.
  limit : Option Nat
  showNames : Bool

def settingsOf (s : Surroundings) (a : Arguments) : Loaded Settings :=
  match a.settings with
  | some path => Settings.load s.files path
  | none => .ok (Settings.loadKept s.files s.home)

def limitOf (count : Nat) : Option Nat := if count = 0 then none else some count

def Plan.make (settings : Settings) (a : Arguments) : Except Failure Plan := do
  let dialect ← (Dialect.ofName (a.dialect.getD settings.dialect)).mapError .unknownDialect
  let query ← (Query.compile dialect (a.ignoreCase || settings.ignoreCase) a.query).mapError
    (.refusedQuery dialect a.query)
  .ok ⟨query, limitOf (a.maxResults.getD settings.maxResults), a.showNames || settings.showNames⟩

def matchPaths (q : Query) (paths : List String) : Report :=
  let results := paths.map fun path => (path, q.isMatch (pathNames path))
  ⟨results.map fun (path, matched) => path ++ ": " ++ if matched then "match" else "no match",
    some (results.any Prod.snd)⟩

-- The tree to search: the input, if no file is named or if it is named by a dash.
def treeOf (s : Surroundings) (file : Option String) : Loaded Tree :=
  match file with
  | some path => if path = "-" then Tree.ofInput s.input else Tree.ofFile s.files path
  | none => Tree.ofInput s.input

-- Searches a tree from its root. A search finds no node twice, so that the size of the tree bounds
-- the results.
def searchTree (p : Plan) (t : Tree) : Report :=
  let search := p.query.search Tree.root .empty
  let (found, _) := p.query.take t (p.limit.getD t.size) search
  ⟨found.map fun id => if p.showNames then t.name id else t.path id, none⟩

def run (s : Surroundings) (a : Arguments) : Except Failure Report := do
  let settings ← (settingsOf s a).mapError .load
  let plan ← Plan.make settings a
  if a.paths.isEmpty then
    let tree ← (treeOf s a.file).mapError .load
    .ok (searchTree plan tree)
  else .ok (matchPaths plan.query a.paths)

inductive WriteFault where
  -- Nobody reads the output any more.
  | closed
  | failed (reason : String)
deriving DecidableEq, Repr

/-- An output, by the faults that it meets: at a line, of which the number is given, and at the end. -/
structure Output where
  atLine : Nat → Option WriteFault
  atEnd : Option WriteFault

def Output.steady : Output := ⟨fun _ => none, none⟩

structure Written where
  lines : List String
  -- How many lines were tried, unless writing failed.
  count : Except String Nat

-- Writes lines, where `count` lines were written before. A reader that has gone away ends the
-- output and is no failure.
def writeLines (o : Output) (count : Nat) : List String → Written
  | [] =>
      match o.atEnd with
      | some (.failed reason) => ⟨[], .error reason⟩
      | some .closed | none => ⟨[], .ok count⟩
  | line :: rest =>
      match o.atLine count with
      | some (.failed reason) => ⟨[], .error reason⟩
      | some .closed => ⟨[], .ok (count + 1)⟩
      | none =>
          let later := writeLines o (count + 1) rest
          ⟨line :: later.lines, later.count⟩

structure Ending where
  code : Nat
  output : String
  error : Option String
deriving DecidableEq, Repr

def linesText (lines : List String) : String :=
  String.join (lines.map fun line => line ++ "\n")

def usageEnding (e : UsageError) : Ending := ⟨2, "", some ("error: " ++ e.message)⟩

-- Runs a command. Zero stands for something found, one for nothing found, and two for a failure.
def executeOn (o : Output) (s : Surroundings) (a : Arguments) : Ending :=
  match run s a with
  | .error e => ⟨2, "", some ("Error: " ++ e.message)⟩
  | .ok r =>
      let written := writeLines o 0 r.lines
      match written.count with
      | .error reason => ⟨2, linesText written.lines, some ("Error: " ++ reason)⟩
      | .ok count =>
          ⟨if r.found.getD (0 < count) then 0 else 1, linesText written.lines, none⟩

def execute (s : Surroundings) (a : Arguments) : Ending := executeOn .steady s a

def executeLine (s : Surroundings) (arguments : List String) : Ending :=
  match Arguments.read arguments with
  | .error e => usageEnding e
  | .ok a => execute s a

end PathQuery.CommandLine
