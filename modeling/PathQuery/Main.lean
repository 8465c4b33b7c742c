import PathQuery.CommandLine.Run

set_option autoImplicit false

namespace PathQuery.CommandLine

def fetch (files : Files) (path : String) : IO Files := do
  let fetched ←
    try
      let content ← IO.FS.readBinFile path
      pure (files.add path content.toList)
    catch
      | .inappropriateType .. => pure (files.makeParent (path ++ "/directory"))
      | _ => pure (.ok files)
  pure (fetched.toOption.getD files)

def pathsOf (home : String) (a : Arguments) : List String :=
  [a.settings.getD (Settings.standardPath home)] ++ (a.file.filter (· ≠ "-")).toList

def readsInput (a : Arguments) : Bool := a.paths.isEmpty && a.file.all (· = "-")

partial def readAll (stream : IO.FS.Stream) (done : ByteArray) : IO ByteArray := do
  let chunk ← stream.read 65536
  if chunk.isEmpty then pure done else readAll stream (done ++ chunk)

def surroundings (a : Arguments) : IO Surroundings := do
  let home := (← IO.getEnv "HOME").getD ""
  let current := (Files.parts (← IO.currentDir).toString).filter (· ≠ "")
  let files ← (pathsOf home a).foldlM fetch (Files.empty current)
  let input ← if readsInput a then readAll (← IO.getStdin) .empty else pure .empty
  pure ⟨files, home, input.toList⟩

def faultOf : IO.Error → WriteFault
  | .resourceVanished .. => .closed
  | e => .failed (toString e)

-- Writes the text of an ending, and gives the ending that comes of it.
def Ending.write (e : Ending) : IO Ending := do
  let out ← IO.getStdout
  try
    out.putStr e.output
    out.flush
    pure e
  catch fault =>
    match faultOf fault with
    | .closed => pure e
    | .failed reason => pure { e with code := 2, error := some ("Error: " ++ reason) }

def Ending.print (e : Ending) : IO UInt32 := do
  let e ← e.write
  match e.error with
  | some text => (← IO.getStderr).putStrLn text
  | none => pure ()
  pure (UInt32.ofNat e.code)

end PathQuery.CommandLine

open PathQuery.CommandLine in
def main (arguments : List String) : IO UInt32 := do
  match Arguments.read arguments with
  | .error e => (usageEnding e).print
  | .ok a => (execute (← surroundings a) a).print
