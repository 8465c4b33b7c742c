import PathQuery.Path

set_option autoImplicit false

namespace PathQuery

inductive FileError where
  | notFound
  | alreadyExists
  | isDirectory
  | notDirectory
  | nameTooLong
  | invalidName
deriving DecidableEq, Repr

def FileError.message : FileError → String
  | .notFound => "No such file or directory (os error 2)"
  | .alreadyExists => "File exists (os error 17)"
  | .isDirectory => "Is a directory (os error 21)"
  | .notDirectory => "Not a directory (os error 20)"
  | .nameTooLong => "File name too long (os error 36)"
  | .invalidName => "file name contained an unexpected NUL byte"

inductive Entry where
  | file (content : List UInt8)
  | directory
deriving DecidableEq, Repr

def Entry.content : Entry → Except FileError (List UInt8)
  | .file content => .ok content
  | .directory => .error .isDirectory

structure Files where
  entries : List (List String × Entry)
  -- The working directory, where paths begin that do not begin at the root.
  current : List String

namespace Files

/-- Files after an attempt to change them, and why it failed if it did. What was changed until then
stays changed. -/
structure Attempt (ε : Type) where
  files : Files
  failure : Option ε

namespace Attempt

variable {ε : Type}

-- An attempt that leaves the files as they were if it fails.
def of (before : Files) : Except ε Files → Attempt ε
  | .ok fs => ⟨fs, none⟩
  | .error e => ⟨before, some e⟩

def andThen (a : Attempt ε) (change : Files → Except ε Files) : Attempt ε :=
  match a.failure with
  | some _ => a
  | none => .of a.files (change a.files)

def mapFailure {ε' : Type} (a : Attempt ε) (f : ε → ε') : Attempt ε' := ⟨a.files, a.failure.map f⟩

def result (a : Attempt ε) : Except ε Files :=
  match a.failure with
  | some e => .error e
  | none => .ok a.files

end Attempt

def lookup (fs : Files) (names : List String) : Option Entry :=
  if names.isEmpty then some .directory else fs.entries.lookup names

def set (fs : Files) (names : List String) (entry : Entry) : Files :=
  { fs with entries := (names, entry) :: fs.entries.filter (·.1 ≠ names) }

def empty (current : List String) : Files :=
  ⟨(List.range current.length).map fun n => (current.take (n + 1), .directory), current⟩

def parts (path : String) : List String := (Text.split '/' path.toList).map String.ofList

def maxNameSize : Nat := 255

def walk (fs : Files) : (here : List String) → List String → Except FileError (List String)
  | here, [] => .ok here
  | here, name :: rest =>
      if name = "" ∨ name = "." then walk fs here rest
      else if name = ".." then walk fs here.dropLast rest
      else if maxNameSize < name.utf8ByteSize then .error .nameTooLong
      else
        let there := here ++ [name]
        match fs.lookup there with
        | none => .error .notFound
        | some .directory => walk fs there rest
        | some (.file _) => if rest.isEmpty then .ok there else .error .notDirectory

def origin (fs : Files) (path : String) : List String :=
  if path.toList.head? = some '/' then [] else fs.current

def resolve (fs : Files) (path : String) : Except FileError (List String) :=
  if path = "" then .error .notFound
  else if '\x00' ∈ path.toList then .error .invalidName
  else walk fs (fs.origin path) (parts path)

def open? (fs : Files) (path : String) : Except FileError Entry := do
  match fs.lookup (← fs.resolve path) with
  | some entry => .ok entry
  | none => .error .notFound

def contains (fs : Files) (path : String) : Bool := (fs.resolve path).isOk

def read (fs : Files) (path : String) : Except FileError (List UInt8) := do
  (← fs.open? path).content

-- The directory of the last of the parts, and its name there. There is no name where the last part
-- only points to a directory.
def resolveLast (fs : Files) (here parts : List String) :
    Except FileError (List String × Option String) := do
  match parts.getLast? with
  | none => .ok (here, none)
  | some last => do
      let there ← walk fs here (parts.dropLast ++ [""])
      if last = "" ∨ last = "." ∨ last = ".." then .ok (there, none)
      else if maxNameSize < last.utf8ByteSize then .error .nameTooLong
      else .ok (there, some last)

-- Writes a file. Its directory has to be there.
def write (fs : Files) (path : String) (content : List UInt8) : Except FileError Files := do
  if path = "" then .error .notFound
  else if '\x00' ∈ path.toList then .error .invalidName
  else match ← fs.resolveLast (fs.origin path) (parts path) with
    | (_, none) => .error .isDirectory
    | (names, some last) =>
        match fs.lookup (names ++ [last]) with
        | some .directory => .error .isDirectory
        | _ => .ok (fs.set (names ++ [last]) (.file content))

-- Makes a directory. It must not be there yet, and the one that it is in has to be.
def makeDirectory (fs : Files) (here parts : List String) :
    Except FileError Files := do
  match ← fs.resolveLast here parts with
  | (_, none) => .error .alreadyExists
  | (names, some last) =>
      match fs.lookup (names ++ [last]) with
      | some _ => .error .alreadyExists
      | none => .ok (fs.set (names ++ [last]) .directory)

def isDirectory (fs : Files) (here parts : List String) : Bool :=
  match walk fs here parts with
  | .ok there => fs.lookup there = some .directory
  | .error _ => false

def ensureDirectory (fs : Files) (here parts : List String) :
    Except FileError Files :=
  match fs.makeDirectory here parts with
  | .ok fs => .ok fs
  | .error e => if fs.isDirectory here parts then .ok fs else .error e

-- Makes a directory and those that it is in, given the parts of its path with the last one first.
-- The outer ones are only made where they are missed, and stay where a later one cannot be made.
def makeDirectories (fs : Files) (here : List String) : List String → Attempt FileError
  | [] => ⟨fs, none⟩
  | last :: outer =>
      match fs.ensureDirectory here (last :: outer).reverse with
      | .error .notFound =>
          (makeDirectories fs here outer).andThen fun fs =>
            fs.ensureDirectory here (last :: outer).reverse
      | result => .of fs result

-- The parts of the directory of a path. Parts that lead nowhere do not count, except in front.
def parentParts (path : String) : List String :=
  match parts path with
  | [] => []
  | first :: rest => ((first :: rest.filter (· ≠ ".")).filter (· ≠ "")).dropLast

def tryParent (fs : Files) (path : String) : Attempt FileError :=
  if '\x00' ∈ path.toList then ⟨fs, some .invalidName⟩
  else makeDirectories fs (fs.origin path) (parentParts path).reverse

def makeParent (fs : Files) (path : String) : Except FileError Files := (fs.tryParent path).result

def add (fs : Files) (path : String) (content : List UInt8) : Except FileError Files := do
  (← fs.makeParent path).write path content

end Files

end PathQuery
