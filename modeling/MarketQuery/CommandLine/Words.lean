/-!
The words of a command line. A command may be followed and preceded by options; those given after
the command count more. Options that stand for nothing else may be given once. A double hyphen ends
the options.
-/
namespace MarketQuery.CommandLine

inductive Command where
  | ask
  | tools
  | symbols
  | config
  | help
  deriving DecidableEq

def Command.name : Command → String
  | ask => "ask"
  | tools => "tools"
  | symbols => "symbols"
  | config => "config"
  | help => "help"

def Command.ofName? (name : String) : Option Command :=
  [.ask, .tools, .symbols, .config, .help].find? fun (c : Command) => c.name = name

/-- The options at one place of the command line. -/
structure Options where
  settingsFile : Option String := none
  verbose : Bool := false
  jsonLogs : Bool := false
  offline : Bool := false
  json : Bool := false

/-- Why reading ends early. -/
inductive Stop where
  | usage
  /-- Help on a command, or on the whole program. -/
  | help (topic : Option Command)

/-- What has been read. -/
structure Reading where
  command : Option Command := none
  before : Options := {}
  after : Options := {}
  /-- The words that are no options: a question, or what help is asked on. -/
  operand : Option String := none
  /-- The last word needs a path after it. -/
  wantsPath : Bool := false
  optionsEnded : Bool := false

namespace Reading

def options (r : Reading) : Options :=
  if r.command.isSome then r.after else r.before

def setOptions (r : Reading) (o : Options) : Reading :=
  if r.command.isSome then { r with after := o } else { r with before := o }

def setPath (r : Reading) (path : String) : Except Stop Reading :=
  if path = "" ∨ r.options.settingsFile.isSome then .error .usage
  else .ok { r.setOptions { r.options with settingsFile := some path } with wantsPath := false }

/-- Sets a switch that has not been set. -/
def setSwitch (r : Reading) (isSet : Options → Bool) (set : Options → Options) :
    Except Stop Reading :=
  if isSet r.options then .error .usage else .ok (r.setOptions (set r.options))

def verbose (r : Reading) : Except Stop Reading :=
  r.setSwitch Options.verbose fun o => { o with verbose := true }

/-- A word of two hyphens and a name, and the text after the sign of equality. -/
def longOption (r : Reading) (name : String) (given : Option String) : Except Stop Reading :=
  match name, given with
  | "config", some path => r.setPath path
  | "config", none => .ok { r with wantsPath := true }
  | "verbose", none => r.verbose
  | "json-logs", none => r.setSwitch Options.jsonLogs fun o => { o with jsonLogs := true }
  | "help", none => .error (.help r.command)
  | "offline", none =>
    if r.command = some .ask then
      r.setSwitch Options.offline fun o => { o with offline := true }
    else .error .usage
  | "json", none =>
    if r.command = some .ask then r.setSwitch Options.json fun o => { o with json := true }
    else .error .usage
  | _, _ => .error .usage

/-- The letters after one hyphen. What follows a `c` is a path. -/
def shortOptions (r : Reading) : List Char → Except Stop Reading
  | [] => .ok r
  | ['c'] => .ok { r with wantsPath := true }
  | 'c' :: '=' :: path => r.setPath (String.ofList path)
  | 'c' :: path => r.setPath (String.ofList path)
  | 'h' :: _ => .error (.help r.command)
  | 'v' :: rest =>
    match r.verbose with
    | .ok r => r.shortOptions rest
    | .error stop => .error stop
  | _ => .error .usage

/-- A word that is no option. -/
def addOperand (r : Reading) (word : String) : Except Stop Reading :=
  match r.command with
  | none =>
    if r.optionsEnded then .error .usage
    else
      match Command.ofName? word with
      | some command => .ok { r with command := some command }
      | none => .error .usage
  | some command =>
    if (command = .ask ∨ command = .help) ∧ r.operand.isNone then
      .ok { r with operand := some word }
    else .error .usage

/-- Every word after a question for help is an operand. -/
def addWord (r : Reading) (word : String) : Except Stop Reading :=
  if r.optionsEnded || r.command = some .help then r.addOperand word
  else
    match word.toList with
    | '-' :: '-' :: name =>
      if r.wantsPath then .error .usage
      else if name = [] then .ok { r with optionsEnded := true }
      else
        let given := name.dropWhile (· ≠ '=')
        r.longOption (String.ofList (name.takeWhile (· ≠ '=')))
          (if given = [] then none else some (String.ofList (given.drop 1)))
    | '-' :: c :: rest => if r.wantsPath then .error .usage else r.shortOptions (c :: rest)
    | _ => if r.wantsPath then r.setPath word else r.addOperand word

def addWords (r : Reading) : List String → Except Stop Reading
  | [] => .ok r
  | word :: rest =>
    match r.addWord word with
    | .ok r => r.addWords rest
    | .error stop => .error stop

end Reading

/-- What the program is asked to do. -/
inductive Task where
  | ask (query : String) (offline json : Bool)
  | tools
  | symbols
  | config

structure Invocation where
  task : Task
  settingsFile : Option String

/-- What the words ask for. -/
def Reading.finish (r : Reading) : Except Stop Invocation :=
  if r.wantsPath then .error .usage
  else
    let settingsFile := r.after.settingsFile <|> r.before.settingsFile
    match r.command, r.operand with
    | none, _ => .error .usage
    | some .ask, some query => .ok ⟨.ask query r.after.offline r.after.json, settingsFile⟩
    | some .ask, none => .error .usage
    | some .tools, _ => .ok ⟨.tools, settingsFile⟩
    | some .symbols, _ => .ok ⟨.symbols, settingsFile⟩
    | some .config, _ => .ok ⟨.config, settingsFile⟩
    | some .help, none => .error (.help none)
    | some .help, some topic =>
      match Command.ofName? topic with
      | some command => .error (.help (some command))
      | none => .error .usage

def Invocation.ofWords (words : List String) : Except Stop Invocation :=
  match ({} : Reading).addWords words with
  | .ok r => r.finish
  | .error stop => .error stop

end MarketQuery.CommandLine
