import Std.Time.DateTime.Timestamp
import MarketQuery.Audit.Timestamp
import MarketQuery.CommandLine.Help
import MarketQuery.CommandLine.Output
import MarketQuery.Settings.EnvFile

/-!
The program. It reads the environment and the files, has the work done, and prints what came of it.
There is no connection to a network, so every request finds its connection broken.
-/
namespace MarketQuery.Main

def fileText? (path : String) : IO (Option String) := do
  try
    return some (← IO.FS.readFile path)
  catch _ =>
    return none

/-- The variables that the program looks at. -/
def variableNames : List String :=
  ["LLM_BASE_URL", "LLM_API_KEY", "ATOMA_API_KEY", "OPENAI_API_KEY", "OPENROUTER_API_KEY",
    "MARKET_DATA_URL"]

def environment : IO Environment := do
  let values ← variableNames.mapM fun name => do return (name, ← IO.getEnv name)
  let env : Environment := fun name => (values.lookup name).join
  match ← fileText? ".env" with
  | some contents => return EnvFile.extend env contents
  | none => return env

def settingsFile (path : Option String) : IO Settings.File := do
  match path with
  | none => return .none
  | some path =>
    match ← fileText? path with
    | some contents => return .text contents
    | none => return .missing

/-- A server that cannot be reached. -/
def unreachable : Http.Server Unit :=
  fun _ => pure .broken

def appendLog (path : String) (entries : List AuditEntry) : IO Unit := do
  let log := (AuditLog.mk (some "")).appendAll entries
  try
    IO.FS.withFile path .append fun h => h.putStr (log.contents.getD "")
  catch _ =>
    return ()

def performed (invocation : CommandLine.Invocation) : IO UInt32 := do
  let env ← environment
  let file ← settingsFile invocation.settingsFile
  let now := (← Std.Time.Timestamp.now).toMillisecondsSinceUnixEpoch.val
  let start : RemoteState Unit := ⟨now.toNat, [], ()⟩
  let queryId := Decimal.natText (← IO.rand 0 Decimal.wordLimit)
  let timestamp := Audit.timestamp now.toNat
  let (output, _) := (invocation.run file env unreachable now timestamp queryId).run start
  for line in output.lines do
    IO.println line
  if let some complaint := output.complaint then
    IO.eprintln complaint
  if let some path := output.auditPath then
    appendLog path output.audited
  return output.exitCode.toUInt32

def run (words : List String) : IO UInt32 := do
  match CommandLine.Invocation.ofWords words with
  | .error .usage =>
    for line in CommandLine.helpLines none do
      IO.eprintln line
    return 2
  | .error (.help topic) =>
    for line in CommandLine.helpLines topic do
      IO.println line
    return 0
  | .ok invocation => performed invocation

end MarketQuery.Main

def main (words : List String) : IO UInt32 :=
  MarketQuery.Main.run words
