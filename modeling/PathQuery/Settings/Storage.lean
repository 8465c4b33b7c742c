import PathQuery.Load.Document
import PathQuery.Settings.Basic

set_option autoImplicit false

namespace PathQuery.Settings

def standardPath (home : String) : String := home ++ "/.config/treequery/config.toml"

def load (fs : Files) (path : String) : Loaded Settings := do
  let text ← Loaded.within ("Failed to read config file " ++ path) do
    Tree.textOf (← Loaded.ofExcept .file (fs.read path))
  (Loaded.ofExcept (fun _ => .settings) (read text)).within
    ("Failed to parse config file " ++ path)

-- The settings that are kept. They are the standard ones if none can be loaded.
def loadKept (fs : Files) (home : String) : Settings :=
  match load fs (standardPath home) with
  | .ok s => s
  | .error _ => standard

-- Saves settings. Directories that were made stay if the file cannot be written then.
def trySave (s : Settings) (fs : Files) (path : String) : Files.Attempt LoadError :=
  ((fs.tryParent path).mapFailure fun e => ⟨[], .file e⟩).andThen fun fs =>
    match s.text? with
    | none => .error ⟨[], .settings⟩
    | some text =>
        (Loaded.ofExcept .file (fs.write path (Utf8.encode text.toList))).within
          ("Failed to write config file " ++ path)

def save (s : Settings) (fs : Files) (path : String) : Loaded Files := (s.trySave fs path).result

def keep (s : Settings) (fs : Files) (home : String) : Loaded Files :=
  s.save fs (standardPath home)

end PathQuery.Settings
