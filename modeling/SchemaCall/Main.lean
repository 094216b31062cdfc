import SchemaCall.CommandLine

/-!
# The program

The command line as a program of its own: it gathers the variables and the file that a command may
look at, runs the command, and prints what it leaves behind. There is no network behind it.
-/

namespace SchemaCall.CommandLine

/-- The variables that a command may look at. -/
def variableNames : List String :=
  ["MODELRPC_MODEL_PATH", "MODELRPC_ENDPOINT_URL", "MODELRPC_MEMOIZE",
    "MODELRPC_CACHE_MAX_ENTRIES", "MODELRPC_PROXY_URL"]

/-- Those of the variables that are set. -/
def gatherEnvironment : IO Environment := do
  let values ← variableNames.mapM fun name => do return (name, ← IO.getEnv name)
  return ⟨values.filterMap fun (name, value) => value.map fun value => (name, value)⟩

/-- The file at a path, if it can be read. -/
def gatherFile (path : String) : IO Directory := do
  try
    let bytes ← IO.FS.readBinFile path
    return ⟨[(path, bytes.toList)]⟩
  catch _ => return ⟨[]⟩

/-- The file that the words of a command, or the environment, name as model. -/
def gatherFiles (environment : Environment) (words : List String) : IO Directory :=
  match readRequest environment (words.drop 1) with
  | .ok request => gatherFile request.model
  | .error _ => return ⟨[]⟩

end SchemaCall.CommandLine

open SchemaCall CommandLine in
/-- Run the program. -/
def main (words : List String) : IO UInt32 := do
  let environment ← gatherEnvironment
  let files ← gatherFiles environment words
  let outcome := run ⟨environment, files, Http.disconnected⟩ words
  IO.print outcome.output
  IO.eprint outcome.errors
  return outcome.status.toUInt32
