import MarketQuery.Symbol.Table
import MarketQuery.Tool.Registry

/-!
The prompt. One text tells the model its task, the tools with their parameters, the known symbols,
the form of the reply, and the question. It depends on nothing but the registry's definitions, the
symbols and the question.
-/
namespace MarketQuery.Prompt

def preamble : String :=
  "You are a DeFi analytics assistant for the Sui blockchain. You answer questions about " ++
    "token prices, liquidity pools and swap rates by planning calls to the tools listed below. " ++
    "You never invent numbers: every figure in your answer must come from a tool result."

def templateRules : List String := [
  "The answerTemplate is plain text with $\x7b...\x7d placeholders filled from tool results:",
  "- $\x7bresult.field\x7d reads a field of the first action's result, e.g. " ++
    "$\x7bresult.current\x7d",
  "- $\x7bresults['get_token_prices']['SUI'].current\x7d reads a keyed result; results are " ++
    "keyed by tool name, by action index ('0', '1', ...) and, for multi-token prices, by token " ++
    "symbol",
  "- $\x7bresult.tokens[0]\x7d indexes into arrays",
  "- $\x7bresult\x7d or $\x7bresults\x7d alone inserts a formatted summary of the whole result",
  "Numbers are rendered with three decimals. Leave the template empty to get the default " ++
    "formatted summary."]

def examples : List String := [
  "Example 1 (enough information):",
  "Question: What is the price of SUI?",
  "\x7b",
  "  \"status\": \"success\",",
  "  \"reasoning\": \"The user wants the current SUI price.\",",
  "  \"actions\": [\x7b \"tool\": \"get_token_price\", \"input\": \x7b \"symbol\": \"SUI\" " ++
    "\x7d \x7d],",
  "  \"answerTemplate\": \"SUI is trading at $$\x7bresult.current\x7d " ++
    "($\x7bresult.priceChange24h\x7d% in 24h).\"",
  "\x7d",
  "",
  "Example 2 (missing information):",
  "Question: How deep is the pool?",
  "\x7b",
  "  \"status\": \"needs_info\",",
  "  \"reasoning\": \"No pool was named.\",",
  "  \"request\": \"Which pool do you mean? Please give its id or its token pair.\"",
  "\x7d",
  "",
  "Example 3 (outside the tools):",
  "Question: What will SUI be worth next year?",
  "\x7b",
  "  \"status\": \"error\",",
  "  \"reasoning\": \"Price predictions are not available from any tool.\",",
  "  \"errorMessage\": \"I can only report current market data, not predictions.\"",
  "\x7d"]

def responseFormat : List String := [
  "Reply with a single JSON object with these fields:",
  "- status: \"success\", \"needs_info\" or \"error\"",
  "- reasoning: one sentence on how you read the question",
  "- actions: list of \x7b \"tool\": <name>, \"input\": \x7b <parameter>: <value> \x7d \x7d, " ++
    "executed in order (only for success)",
  "- answerTemplate: the answer text (only for success)",
  "- request: the question to ask the user (only for needs_info)",
  "- errorMessage: why the question cannot be answered (only for error)"]

/-- Whether a parameter must be given, and what it is otherwise. -/
def requirement (p : Parameter) : String :=
  match p.default with
  | some default => "optional, default " ++ default.compact
  | none => if p.required then "required" else "optional"

def parameterLine (p : Parameter) : String :=
  "    " ++ p.name ++ " (" ++ p.kind.name ++ ", " ++ requirement p ++ "): " ++ p.description

def toolLines (d : ToolDefinition) : List String :=
  ["- " ++ d.name ++ ": " ++ d.description] ++ d.parameters.map parameterLine ++
    (if d.requiredNames = [] then []
     else ["    required: " ++ ", ".intercalate d.requiredNames]) ++
    ["    returns: " ++ d.output.describe]

def symbolLines (t : SymbolTable) : List String :=
  [", ".intercalate (t.entries.map Prod.fst),
   "Refer to tokens by symbol; they are translated to coin types for you. " ++
    "Full coin types (0x...::module::NAME) are accepted too."]

/-- The prompt for a question. -/
def text (tools : List ToolDefinition) (symbols : SymbolTable) (question : String) : String :=
  "\n".intercalate <|
    [preamble, "", "## Tools"] ++ tools.flatMap toolLines ++
    ["", "## Known token symbols"] ++ symbolLines symbols ++
    ["", "## Response format"] ++ responseFormat ++ [""] ++ templateRules ++
    ["", "## Examples"] ++ examples ++
    ["", "## Question", question, "", "Return only the JSON object, with no other text."]

end MarketQuery.Prompt
