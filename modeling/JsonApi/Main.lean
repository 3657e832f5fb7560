import JsonApi.CommandLine.Run

/-!
# The command

The outermost layer: reads the environment and the files that the command line
names, and writes the outcome of the run.
-/

namespace JsonApi.CommandLine

/-- The fault that a failed reading of a file shows. -/
def faultOf : IO.Error → FileFault
  | .noFileOrDirectory .. => .notFound
  | .permissionDenied .. => .notPermitted
  | .inappropriateType .. => .isDirectory
  | error => .other (toString error)

/-- Reads the text of a file. -/
def readText (path : String) : IO (Except FileFault String) := do
  try
    let bytes ← IO.FS.readBinFile path
    match String.fromUTF8? bytes with
    | some text => pure (.ok text)
    | none => pure (.error .notText)
  catch error => pure (.error (faultOf error))

/-- The directory of configurations: a variable names it absolutely, or it lies
below the home directory. -/
def findConfigDirectory : IO (Option String) := do
  let named ← IO.getEnv "XDG_CONFIG_HOME"
  let home ← IO.getEnv "HOME"
  let below := (home.filter (· ≠ "")).map fun directory =>
    if directory.endsWith "/" then directory ++ ".config"
    else directory ++ "/.config"
  pure ((named.filter fun directory => directory.startsWith "/").or below)

/-- Reads the files that a command line names and carries it out. -/
def runHere (arguments : List String) : IO Outcome := do
  let environment : Environment :=
    { configVariable := ← IO.getEnv "JSONAPI_QUERY_CONFIG"
      configDirectory := ← findConfigDirectory }
  let paths :=
    match readArguments environment.configVariable arguments with
    | .ok invocation => invocation.paths environment
    | .error _ => []
  let texts ← paths.mapM fun path => do pure (path, ← readText path)
  let textAt (path : String) : Except FileFault String :=
    (texts.lookup path).getD (.error .notFound)
  pure (run environment (.ofTexts textAt) arguments)

end JsonApi.CommandLine

/-- Carries out the command line and ends with its status. -/
def main (arguments : List String) : IO UInt32 := do
  let outcome ← JsonApi.CommandLine.runHere arguments
  IO.print outcome.output
  match outcome.complaint with
  | some complaint => IO.eprintln complaint
  | none => pure ()
  pure (UInt32.ofNat outcome.status)
