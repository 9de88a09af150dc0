import MarketQuery.Market.Basic
import MarketQuery.Tool.Parameter

/-!
Tools: what they are called, which parameters they declare, what shape their output has, and the
operation behind them.
-/
namespace MarketQuery

/-- The shape of a tool's output. -/
inductive OutputShape where
  | pricedAsset
  | pricedAssetMap
  | poolSnapshot
  | poolList
  | spotPrice
  | scalar
  deriving DecidableEq

def OutputShape.describe : OutputShape → String
  | pricedAsset => "\x7b current, previous, lastUpdated, priceChange24h \x7d (USD, percent)"
  | pricedAssetMap =>
    "\x7b <coin type or SYMBOL>: \x7b current, previous, lastUpdated, priceChange24h \x7d \x7d"
  | poolSnapshot => "\x7b id, tokens[], reserves[], fee, tvl, apr \x7d"
  | poolList => "[ \x7b id, tokens[], reserves[], fee, tvl, apr \x7d ]"
  | spotPrice => "number (units of coin_out per coin_in)"
  | scalar => "number"

structure ToolDefinition where
  name : String
  description : String
  parameters : List Parameter := []
  output : OutputShape

/-- The parameters that a caller must supply. -/
def ToolDefinition.requiredNames (d : ToolDefinition) : List String :=
  (d.parameters.filter fun p => p.required && p.default.isNone).map Parameter.name

/-- Why a tool call failed. -/
inductive ToolError where
  | market (cause : MarketError)
  | invalidArgument (fault : ArgumentFault)
  | computation (reason : String)

def ToolError.message : ToolError → String
  | market cause => cause.message
  | invalidArgument fault => "Invalid argument: " ++ fault.message
  | computation reason => reason

/-- The work of a tool in a world with state `σ`. -/
abbrev Working (σ : Type) := ExceptT ToolError (StateM σ)

structure Tool (σ : Type) where
  definition : ToolDefinition
  invoke : Arguments → Working σ Json

namespace Working

variable {σ α : Type}

/-- Reading an argument. -/
def argument (read : Except ArgumentFault α) : Working σ α :=
  match read with
  | .ok a => pure a
  | .error fault => throw (.invalidArgument fault)

/-- Asking a source of market data. -/
def market (question : Asking σ α) : Working σ α :=
  ExceptT.mk do
    match ← question.run with
    | .ok a => pure (.ok a)
    | .error cause => pure (.error (.market cause))

end Working

end MarketQuery
