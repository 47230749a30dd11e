import QueryDoc.CommandLine.Run

/-!
# The program

Gathers what a run may need, and writes what comes of it.
-/

namespace QueryDoc.Main

open CommandLine

def storedOfError : IO.Error → Stored
  | .noFileOrDirectory .. => .absent "No such file or directory (os error 2)"
  | .inappropriateType _ 21 _ => .unreadable "Is a directory (os error 21)"
  | .inappropriateType .. => .absent "Not a directory (os error 20)"
  | .invalidArgument .. => .absent "File name too long (os error 36)"
  | .permissionDenied .. => .unreadable "Permission denied (os error 13)"
  | error => .unreadable (toString error)

def load (path : String) : IO (String × Stored) := do
  let stored ←
    try
      pure (.ofBytes (← IO.FS.readBinFile path))
    catch error =>
      pure (storedOfError error)
  return (path, stored)

def paths (options : Options) (configVariable : Option String) : List String :=
  defaultConfig :: (options.config.toList ++ configVariable.toList ++ options.file.toList)

def readInput (options : Options) : IO Input := do
  if options.interactive || options.file.isNone then
    let stream ← IO.getStdin
    let mut bytes := ByteArray.empty
    let mut chunk ← stream.read 65536
    while chunk.size > 0 do
      bytes := bytes ++ chunk
      chunk ← stream.read 65536
    return .ofBytes bytes
  else
    return .text ""

def gather (options : Options) : IO Surroundings := do
  let configVariable ← IO.getEnv "FILTER_SQL_CONFIG"
  let files ← (paths options configVariable).mapM load
  return {
    configVariable
    terminal := ← IO.getEnv "TERM"
    find := fun path => (files.lookup path).getD (Surroundings.empty.find path)
    input := ← readInput options }

end QueryDoc.Main

open QueryDoc CommandLine Main in
def main (arguments : List String) : IO UInt32 := do
  let surroundings ←
    match parse arguments with
    | .run options => gather options
    | _ => pure .empty
  let outcome := invoke arguments surroundings
  IO.print outcome.output
  if let some failure := outcome.failure then
    IO.eprintln ("Error: " ++ failure.message)
  return outcome.exitCode.toUInt32
