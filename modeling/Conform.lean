import Conform.Config
import Conform.Constraint
import Conform.Document.Json.Basic
import Conform.Document.Json.Reader
import Conform.Document.Json.Token
import Conform.Document.Nesting
import Conform.Document.Placeholder
import Conform.Document.Profile
import Conform.Document.Properties
import Conform.Document.Toml.Basic
import Conform.Document.Toml.Datetime
import Conform.Document.Toml.Quoted
import Conform.Document.Toml.Reader
import Conform.Document.Toml.Scalar
import Conform.Document.Toml.Tables
import Conform.Finding
import Conform.KeyPattern
import Conform.Load
import Conform.Load.Factory
import Conform.Load.Failure
import Conform.Load.FileTree
import Conform.Log.Config
import Conform.Log.Filter
import Conform.Number.Binary64
import Conform.Number.Decimal
import Conform.Number.Integer
import Conform.Number.Literal
import Conform.Number.Radix
import Conform.Number.Shortest
import Conform.Proofs.KeyPattern.Reading
import Conform.Proofs.Load.Concurrent
import Conform.Proofs.Load.Fold
import Conform.Proofs.Load.Independence
import Conform.Proofs.Load.Results
import Conform.Proofs.Load.Schedule
import Conform.Proofs.Nesting.Decimals
import Conform.Proofs.Nesting.Flatten
import Conform.Proofs.Nesting.Path
import Conform.Proofs.Nesting.RoundTrip
import Conform.Proofs.Number.Literal
import Conform.Proofs.Number.Rounding
import Conform.Proofs.Number.Shortest
import Conform.Proofs.Number.Value
import Conform.Proofs.Number.Written
import Conform.Proofs.Placeholder.Chain
import Conform.Proofs.Placeholder.Context
import Conform.Proofs.Placeholder.Expansion
import Conform.Proofs.Placeholder.Remains
import Conform.Proofs.Placeholder.Resolution
import Conform.Proofs.Placeholder.Scan
import Conform.Proofs.Placeholder.Substitution
import Conform.Proofs.Profile.Section
import Conform.Proofs.Profile.Selection
import Conform.Proofs.Properties.Escape
import Conform.Proofs.Properties.RoundTrip
import Conform.Proofs.Rule.Bounds
import Conform.Proofs.Rule.Sharing
import Conform.Proofs.Rule.Tester
import Conform.Proofs.Run.Report
import Conform.Proofs.Store.Merge
import Conform.Proofs.Store.Writes
import Conform.Proofs.Traversal
import Conform.Proofs.Validation.Batches
import Conform.Proofs.Validation.Coverage
import Conform.Proofs.Validation.Crew
import Conform.Proofs.Validation.Judgement
import Conform.Proofs.Value.Order
import Conform.Regex
import Conform.Regex.CharClass
import Conform.Regex.ClassParser
import Conform.Regex.Expression
import Conform.Regex.Match
import Conform.Regex.Parser
import Conform.Regex.Pattern
import Conform.Regex.Scan
import Conform.Regex.Size
import Conform.Rule
import Conform.Rule.Bounds
import Conform.Rule.CreditCard
import Conform.Rule.Email
import Conform.Rule.FullMatch
import Conform.Run
import Conform.Settings
import Conform.Settings.Basic
import Conform.Settings.Document
import Conform.Settings.Environment
import Conform.Settings.EnvironmentFile
import Conform.SourceLine
import Conform.Specification
import Conform.Store
import Conform.Text.Blank
import Conform.Text.Lines
import Conform.Text.Sorted
import Conform.Text.Split
import Conform.Unicode.Age
import Conform.Unicode.BinaryProperty
import Conform.Unicode.CaseChange
import Conform.Unicode.CaseFolding
import Conform.Unicode.CaseMapping
import Conform.Unicode.Direction
import Conform.Unicode.DomainMapping
import Conform.Unicode.GeneralCategory
import Conform.Unicode.Joining
import Conform.Unicode.Normalization
import Conform.Unicode.Property
import Conform.Unicode.Ranges
import Conform.Unicode.Script
import Conform.Unicode.ScriptExtension
import Conform.Unicode.Table
import Conform.Unicode.TextBoundary
import Conform.Url
import Conform.Url.Address
import Conform.Url.Domain
import Conform.Url.Punycode
import Conform.Validation
import Conform.Value.Basic
import Conform.Value.Order
import Conform.Value.Text
import Conform.Proofs.KeyPattern.Blocks
import Conform.Proofs.Properties.Codes
import Conform.Proofs.Properties.Composition
import Conform.Proofs.Properties.Failure
import Conform.Proofs.Rule.CreditCard
import Conform.Proofs.Rule.Membership
import Conform.Proofs.Rule.Scale
import Conform.Proofs.Nesting.Keys
import Conform.Proofs.Profile.Overlay
import Conform.Proofs.Placeholder.Machine
import Conform.Proofs.Placeholder.Reference
import Conform.Proofs.Placeholder.Depth
import Conform.Proofs.Rule.Range
import Conform.Proofs.Validation.Reordering
import Conform.Proofs.Specification.Accounting
import Conform.Proofs.Store.History
import Conform.Proofs.Store.Section
import Conform.Proofs.Settings.Overrides
import Conform.Proofs.Json.Integers
import Conform.Proofs.Placeholder.Frame
import Conform.Proofs.KeyPattern.Acceptance
import Conform.Proofs.Properties.Splitting
import Conform.Proofs.Properties.Consumption
import Conform.Proofs.Rule.FullMatch
import Conform.Proofs.Regex.Simplify
