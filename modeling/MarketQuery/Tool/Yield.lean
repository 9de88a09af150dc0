import MarketQuery.Tool.Definition

/-!
Formulas for yield and liquidity. Rates are in percent.
-/
namespace MarketQuery.Yield

def aprToApy (apr n : Float) : Float :=
  ((1.0 + apr / 100.0 / n).pow n - 1.0) * 100.0

def apyToApr (apy n : Float) : Float :=
  n * ((1.0 + apy / 100.0).pow (1.0 / n) - 1.0) * 100.0

/-- Loss against holding when the price changes by this ratio. It is negative. -/
def impermanentLoss (priceRatio : Float) : Float :=
  (2.0 * priceRatio.sqrt / (1.0 + priceRatio) - 1.0) * 100.0

/-- How often interest is added in a year. -/
def compoundsPerYear (args : Arguments) : Except ArgumentFault Float :=
  match args.integer "compounds_per_year" with
  | .ok n => if n < 1 then .error .compoundsBelowOne else .ok (Float.ofInt n)
  | .error fault => .error fault

/-- A positive price ratio. What is not a number passes. -/
def priceRatio (args : Arguments) : Except ArgumentFault Float :=
  match args.number "price_ratio" with
  | .ok ratio => if ratio ≤ 0.0 then .error .ratioNotPositive else .ok ratio
  | .error fault => .error fault

variable {σ : Type}

def finite (x : Float) : Working σ Json :=
  if x.isFinite then pure (.number (.float x))
  else throw (.computation "result is not a finite number")

def compoundsParameter : Parameter where
  name := "compounds_per_year"
  kind := .integer
  description := "Compounding periods per year"
  required := false
  default := some (.ofInt 365)

/-- A tool that converts a rate, given how often interest is added in a year. -/
def conversionTool (name description rate rateDescription : String)
    (convert : Float → Float → Float) : Tool σ where
  definition :=
    { name := name
      description := description
      parameters :=
        [{ name := rate, kind := .number, description := rateDescription, required := true },
         compoundsParameter]
      output := .scalar }
  invoke args := do
    let x ← Working.argument (args.number rate)
    let n ← Working.argument (compoundsPerYear args)
    finite (convert x n)

def aprToApyTool : Tool σ :=
  conversionTool "apr_to_apy" "Convert a simple APR (percent) into a compounded APY (percent)"
    "apr" "Annual percentage rate" aprToApy

def apyToAprTool : Tool σ :=
  conversionTool "apy_to_apr" "Convert a compounded APY (percent) back into a simple APR (percent)"
    "apy" "Annual percentage yield" apyToApr

def impermanentLossTool : Tool σ where
  definition :=
    { name := "impermanent_loss"
      description := "Impermanent loss (percent, negative) of a 50/50 pool position when the " ++
        "price of one asset changes by the given ratio"
      parameters :=
        [{ name := "price_ratio", kind := .number,
           description := "New price divided by entry price, e.g. 2 for a doubling",
           required := true }]
      output := .scalar }
  invoke args := do
    let ratio ← Working.argument (priceRatio args)
    finite (impermanentLoss ratio)

end MarketQuery.Yield
