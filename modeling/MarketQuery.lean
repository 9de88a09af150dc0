import MarketQuery.Text.Blank
import MarketQuery.Text.LetterCase
import MarketQuery.Text.Printable
import MarketQuery.Decimal.Fixed
import MarketQuery.Decimal.Grouped
import MarketQuery.Decimal.Layout
import MarketQuery.Decimal.Reading
import MarketQuery.Json.Reader
import MarketQuery.Json.Printer
import MarketQuery.Text.Quoted
import MarketQuery.Market.Demo
import MarketQuery.Tool.Catalog
import MarketQuery.Plan.Reading
import MarketQuery.Query.Execution
import MarketQuery.Query.Lifecycle
import MarketQuery.Answer.Template
import MarketQuery.Market.Remote
import MarketQuery.Query.Agent
import MarketQuery.Audit.Log
import MarketQuery.Json.Form
import MarketQuery.Settings.Reading
import MarketQuery.Session
import MarketQuery.Main
import MarketQuery.Proofs.Answer.Placeholder
import MarketQuery.Proofs.Plan.Embedded
import MarketQuery.Proofs.Query.Course
import MarketQuery.Proofs.Answer.PathReading
import MarketQuery.Proofs.Symbol.Displays
import MarketQuery.Proofs.Symbol.History
import MarketQuery.Proofs.Query.Assets
import MarketQuery.Proofs.Market.Clients
import MarketQuery.Proofs.Market.History
import MarketQuery.Proofs.Text.UpperCase
import MarketQuery.Proofs.Symbol.Inverse
import MarketQuery.Proofs.Symbol.Reinsertion
import MarketQuery.Proofs.Plan.Strings
import MarketQuery.Proofs.Plan.Fenced
import MarketQuery.Proofs.Answer.SinglePass
import MarketQuery.Proofs.Url.FormEncoding
import MarketQuery.Proofs.Url.Segments
import MarketQuery.Proofs.Market.Questions
import MarketQuery.Proofs.Url.Extension
import MarketQuery.Proofs.Market.Routes
import MarketQuery.Proofs.Json.Equality
import MarketQuery.Proofs.Market.Agreement
import MarketQuery.Proofs.Decimal.Finite
import MarketQuery.Proofs.Decimal.Places
import MarketQuery.Proofs.Tool.Reports
import MarketQuery.Proofs.Answer.Fields
import MarketQuery.Proofs.Answer.Advertised
import MarketQuery.Proofs.Plan.Statuses
import MarketQuery.Proofs.Query.Walk
import MarketQuery.Proofs.Query.Messages
import MarketQuery.Proofs.Query.Arguments
import MarketQuery.Proofs.Query.Contracts
import MarketQuery.Proofs.Query.Declarations
import MarketQuery.Proofs.Json.Literal
import MarketQuery.Proofs.Json.Spelling
import MarketQuery.Proofs.Json.ReadBack
import MarketQuery.Proofs.Audit.Lines
import MarketQuery.Proofs.Query.SymbolLists
import MarketQuery.Proofs.Query.Untouched
import MarketQuery.Proofs.Plan.ActionLists
import MarketQuery.Proofs.Plan.Spellings
import MarketQuery.Proofs.Answer.PriceLines
import MarketQuery.Proofs.Answer.PricedSymbols
import MarketQuery.Proofs.Decimal.TotalOrder
import MarketQuery.Proofs.Tool.Ranking
import MarketQuery.Proofs.Answer.IndexSpellings
import MarketQuery.Proofs.Answer.PathErrors
import MarketQuery.Proofs.Decimal.Numerals
import MarketQuery.Proofs.Decimal.Integers
import MarketQuery.Proofs.Json.Numbers
import MarketQuery.Proofs.Tool.Integers
import MarketQuery.Proofs.Query.Replay
import MarketQuery.Proofs.Decimal.Rounding
import MarketQuery.Proofs.Decimal.Opposite
import MarketQuery.Proofs.Decimal.Decimals
import MarketQuery.Proofs.Decimal.Grouping
import MarketQuery.Proofs.Answer.Amounts
import MarketQuery.Proofs.Answer.DollarLayout
import MarketQuery.Proofs.Settings.Keys
import MarketQuery.Proofs.Url.Names
import MarketQuery.Proofs.Settings.Building
import MarketQuery.Proofs.Repeated
import MarketQuery.Proofs.Tool.Registrations
import MarketQuery.Proofs.Market.Versions
import MarketQuery.Proofs.Market.Failures
import MarketQuery.Proofs.Plan.Groups
import MarketQuery.Proofs.Audit.Previews
import MarketQuery.Proofs.Query.Forward
