import MarketQuery.CommandLine.Words

/-!
The help that the command line gives on itself.
-/
namespace MarketQuery.CommandLine

def Command.summary : Command → String
  | ask => "Answer a question"
  | tools => "List the tools the planner may call"
  | symbols => "List known token symbols"
  | config => "Show current configuration"
  | help => "Print this message or the help of the given subcommand(s)"

def programSummary : String :=
  "Ask questions about DeFi prices, pools and swap rates"

def commandLines : List String :=
  [.ask, .tools, .symbols, .config, .help].map fun (c : Command) =>
    "  " ++ c.name ++ String.ofList (List.replicate (9 - c.name.length) ' ') ++ c.summary

def configLine : String := "  -c, --config <CONFIG>  Path to config file (JSON)"
def verboseLine : String := "  -v, --verbose          Enable verbose logging"
def jsonLogsLine : String := "      --json-logs        Emit logs as JSON lines"
def helpLine : String := "  -h, --help             Print help"
def offlineLine : String :=
  "      --offline          Use the built-in market snapshot instead of the analytics backend"
def jsonLine : String :=
  "      --json             Print the full structured response as JSON"

/-- The lines of help on a command, or on the whole program. -/
def helpLines : Option Command → List String
  | none =>
    [programSummary, "", "Usage: defi-query [OPTIONS] <COMMAND>", "", "Commands:"] ++
      commandLines ++ ["", "Options:", configLine, verboseLine, jsonLogsLine, helpLine]
  | some .ask =>
    [Command.ask.summary, "", "Usage: defi-query ask [OPTIONS] <QUERY>", "", "Arguments:",
      "  <QUERY>  The question, e.g. \"What is the price of SUI?\"", "", "Options:", configLine,
      offlineLine, jsonLine, verboseLine, jsonLogsLine, helpLine]
  | some .help =>
    [Command.help.summary, "", "Usage: defi-query help [COMMAND]...", "", "Arguments:",
      "  [COMMAND]...  Print help for the subcommand(s)"]
  | some command =>
    [command.summary, "", "Usage: defi-query " ++ command.name ++ " [OPTIONS]", "", "Options:",
      configLine, verboseLine, jsonLogsLine, helpLine]

end MarketQuery.CommandLine
