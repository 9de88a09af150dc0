import MarketQuery.CommandLine.Words
import MarketQuery.Session
import MarketQuery.Settings.Reading

/-!
What each task of the command line prints. A task that cannot be done prints nothing to the output
and has exit code 1.
-/
namespace MarketQuery.CommandLine

structure Output where
  exitCode : Nat
  lines : List String
  /-- The complaint of a task that failed. -/
  complaint : Option String := none
  auditPath : Option String := none
  audited : List AuditEntry := []

def Output.failed (complaint : String) : Output :=
  { exitCode := 1, lines := [], complaint := some complaint }

def Output.printed (lines : List String) : Output :=
  { exitCode := 0, lines }

/-- What is known of a parameter, in parentheses. -/
def traits (p : Parameter) : List String :=
  [p.kind.name] ++
    (match p.default with
      | some default => ["default " ++ default.compact]
      | none => if p.required then ["required"] else []) ++
    (if p.assetReference then ["symbol"] else [])

def parameterLine (p : Parameter) : String :=
  "    " ++ p.name ++ " (" ++ ", ".intercalate (traits p) ++ "): " ++ p.description

def toolLines (d : ToolDefinition) : List String :=
  [d.name, "  " ++ d.description] ++ d.parameters.map parameterLine ++
    ["  returns " ++ d.output.describe]

/-- A symbol takes at least eight columns. -/
def symbolLine (entry : String × String) : String :=
  entry.1 ++ String.ofList (List.replicate (8 - entry.1.length) ' ') ++ " " ++ entry.2

def responseText (json : Bool) (r : QueryResponse) : String :=
  if json then r.document.prettyText else r.text

/-- Carries out a task under loaded settings. -/
def perform {σ : Type} (settings : Settings) (env : Environment) (server : Http.Server σ)
    (now : Int) (timestamp queryId : String) : Task → StateM (RemoteState σ) Output
  | .ask query offline json =>
    let session : Session := ⟨settings, offline⟩
    match session.agent env server now with
    | .error fault => pure (.failed fault.message)
    | .ok agent => do
      let answered ← session.ask agent query
      pure
        { exitCode := 0
          lines := [responseText json answered.response]
          auditPath := settings.auditLogPath
          audited := session.auditEntries timestamp queryId answered }
  | .tools =>
    let source := (⟨settings, true⟩ : Session).provider server now
    pure (.printed ((Registry.standard source).definitions.flatMap toolLines))
  | .symbols => pure (.printed ((⟨settings, true⟩ : Session).symbols.entries.map symbolLine))
  | .config => pure (.printed [settings.document.prettyText])

/-- Carries out an invocation, given its settings file. -/
def Invocation.run {σ : Type} (i : Invocation) (file : Settings.File) (env : Environment)
    (server : Http.Server σ) (now : Int) (timestamp queryId : String) :
    StateM (RemoteState σ) Output :=
  match Settings.load file env with
  | .error .unreadable => pure (.failed "Configuration error: the file cannot be read")
  | .error .malformed => pure (.failed "Configuration error: the file is not a configuration")
  | .ok settings => perform settings env server now timestamp queryId i.task

end MarketQuery.CommandLine
