import PathQuery.Document.Json.Reader
import PathQuery.Document.Yaml.Document
import PathQuery.Gzip.Member
import PathQuery.Load.Error

set_option autoImplicit false

namespace PathQuery

namespace Tree

def ofJson (text : String) : Loaded Tree :=
  (Loaded.ofExcept .json ((Json.read text).map ofValue)).within "Failed to parse JSON"

def ofYaml (text : String) : Loaded Tree :=
  (Loaded.ofExcept .yaml ((Yaml.read text).map ofValue)).within "Failed to parse YAML"

def textOf (bytes : List UInt8) : Loaded String :=
  Loaded.ofExcept (fun _ => .notText) ((Utf8.decode bytes).map String.ofList)

def expandText (bytes : List UInt8) : Loaded String := do
  textOf (← Loaded.ofExcept .gzip (Gzip.expand bytes))

def inputText (bytes : List UInt8) : Loaded String :=
  if Gzip.isCompressed bytes then (expandText bytes).within "Failed to decompress gzipped input"
  else
    (Loaded.ofExcept .encoding ((Utf8.decode bytes).map String.ofList)).within
      "Invalid UTF-8 in input"

-- Loads bytes of which the format is not known: they are YAML unless they are JSON.
def ofBytes (bytes : List UInt8) : Loaded Tree := do
  let text ← inputText bytes
  match ofJson text with
  | .ok t => .ok t
  | .error _ => (ofYaml text).within "Input is neither valid JSON nor valid YAML"

def lastName (path : String) : List Char :=
  (((Text.split '/' path.toList).filter fun name => name ≠ [] ∧ name ≠ ['.']).getLast?).getD []

-- What follows the last dot of the last name, unless the name begins with that dot.
def extension? (path : String) : Option (List Char) :=
  let name := lastName path
  if name = ['.', '.'] then none
  else match (Text.split '.' name).reverse with
    | extension :: first :: rest =>
        if rest.isEmpty && first.isEmpty then none else some extension
    | _ => none

def isCompressedName (path : String) : Bool := extension? path = some ['g', 'z']

def isJsonName (path : String) : Bool :=
  let name := path.toList.reverse
  let name := if ['z', 'g', '.'].isPrefixOf name then name.drop 3 else name
  ".json".toList.reverse.isPrefixOf name

def fileText (fs : Files) (path : String) : Loaded String :=
  if isCompressedName path then do
    let entry ← (Loaded.ofExcept .file (fs.open? path)).within "Failed to open gzipped file"
    Loaded.within "Failed to decompress gzipped file - file may be corrupted" do
      expandText (← Loaded.ofExcept .file entry.content)
  else
    Loaded.within ("Failed to read file " ++ path) do
      textOf (← Loaded.ofExcept .file (fs.read path))

def ofFile (fs : Files) (path : String) : Loaded Tree := do
  let text ← fileText fs path
  (if isJsonName path then ofJson text else ofYaml text).within
    ("Failed to load tree from " ++ path)

def ofInput (bytes : List UInt8) : Loaded Tree :=
  (ofBytes bytes).within "Failed to load tree from stdin"

end Tree

end PathQuery
