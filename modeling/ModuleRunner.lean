import ModuleRunner.Command.Options
import ModuleRunner.Command.Run
import ModuleRunner.Config
import ModuleRunner.Decimal.Magnitude
import ModuleRunner.Decimal.Numeral
import ModuleRunner.Decimal.Shortest
import ModuleRunner.Evaluation.Call
import ModuleRunner.Evaluation.Expression
import ModuleRunner.Evaluation.Interpreter
import ModuleRunner.Evaluation.Loading
import ModuleRunner.Evaluation.Machine
import ModuleRunner.Evaluation.Method
import ModuleRunner.Evaluation.Operator
import ModuleRunner.Evaluation.Statement
import ModuleRunner.Evaluation.World
import ModuleRunner.Files.Tree
import ModuleRunner.Json.Basic
import ModuleRunner.Json.Printer
import ModuleRunner.Json.Reader
import ModuleRunner.Main
import ModuleRunner.Module.Identifier
import ModuleRunner.Module.LoadError
import ModuleRunner.Module.Locator
import ModuleRunner.Module.Network
import ModuleRunner.Module.Registry
import ModuleRunner.Number.Basic
import ModuleRunner.Script.Capability
import ModuleRunner.Script.Conversion
import ModuleRunner.Script.Document
import ModuleRunner.Script.Failure
import ModuleRunner.Script.Heap
import ModuleRunner.Script.Hoisting
import ModuleRunner.Script.Inspection
import ModuleRunner.Script.Lexer
import ModuleRunner.Script.Parser
import ModuleRunner.Script.Property
import ModuleRunner.Script.Token
import ModuleRunner.Script.Tree
import ModuleRunner.Script.Value
import ModuleRunner.Session
import ModuleRunner.Table
import ModuleRunner.Text.Alphabetic
import ModuleRunner.Text.Blank
import ModuleRunner.Text.Canonical
import ModuleRunner.Text.Casing
import ModuleRunner.Text.CharClass
import ModuleRunner.Text.Direction
import ModuleRunner.Text.Images
import ModuleRunner.Text.Joining
import ModuleRunner.Text.Mark
import ModuleRunner.Text.Printable
import ModuleRunner.Text.Quoted
import ModuleRunner.Text.Split
import ModuleRunner.Text.Units
import ModuleRunner.Text.Utf8
import ModuleRunner.Toml.Basic
import ModuleRunner.Toml.Moment
import ModuleRunner.Toml.Reader
import ModuleRunner.Toml.Section
import ModuleRunner.Url.Basic
import ModuleRunner.Url.Folding
import ModuleRunner.Url.Host
import ModuleRunner.Url.Name
import ModuleRunner.Url.Path
import ModuleRunner.Url.Percent
import ModuleRunner.Url.Punycode
import ModuleRunner.Url.Reader
import ModuleRunner.Proofs.Evaluation.Hereditary
import ModuleRunner.Proofs.Evaluation.Steps
import ModuleRunner.Proofs.Evaluation.Frame
import ModuleRunner.Proofs.Loading.Request
import ModuleRunner.Proofs.Loading.Retention
import ModuleRunner.Proofs.Loading.Execution
import ModuleRunner.Proofs.Files.Walk
import ModuleRunner.Proofs.Loading.Provenance
import ModuleRunner.Proofs.Locating.Resolution
import ModuleRunner.Proofs.Locating.Containment
import ModuleRunner.Proofs.Url.Site
import ModuleRunner.Proofs.Locating.Directory
import ModuleRunner.Proofs.Locating.Absolute
import ModuleRunner.Proofs.Locating.Dotless
import ModuleRunner.Proofs.Locating.Canonical
import ModuleRunner.Proofs.Evaluation.Nesting
import ModuleRunner.Proofs.Loading.Books
import ModuleRunner.Proofs.Loading.Supply
import ModuleRunner.Proofs.Script.Realm
import ModuleRunner.Proofs.Script.Unfolding
import ModuleRunner.Proofs.Script.RoundTrip
import ModuleRunner.Proofs.Script.Phrase
import ModuleRunner.Proofs.Script.Scope
import ModuleRunner.Proofs.Script.Chain
import ModuleRunner.Proofs.Parsing.Rule
import ModuleRunner.Proofs.Parsing.Statement
import ModuleRunner.Proofs.Parsing.Height
import ModuleRunner.Proofs.Evaluation.Moment
import ModuleRunner.Proofs.Evaluation.Calm
import ModuleRunner.Proofs.Loading.Confinement
import ModuleRunner.Proofs.Loading.Propagation
import ModuleRunner.Proofs.Evaluation.Home
import ModuleRunner.Proofs.Evaluation.Settling
import ModuleRunner.Proofs.Evaluation.Privacy
import ModuleRunner.Proofs.Loading.Privacy
import ModuleRunner.Proofs.Session.Silence
import ModuleRunner.Proofs.Session.Privacy
import ModuleRunner.Proofs.Lexing.Layout
import ModuleRunner.Proofs.Lexing.Kinds
import ModuleRunner.Proofs.Decimal.Whole
import ModuleRunner.Proofs.Lexing.Separation
import ModuleRunner.Proofs.Lexing.Seam
import ModuleRunner.Proofs.Lexing.Lexeme
import ModuleRunner.Proofs.Lexing.Delimitation
import ModuleRunner.Proofs.Lexing.Literal
import ModuleRunner.Proofs.Lexing.Document
import ModuleRunner.Proofs.Script.Form
import ModuleRunner.Proofs.Script.Places
import ModuleRunner.Proofs.Script.Grouping
import ModuleRunner.Proofs.Lexing.Operation
import ModuleRunner.Proofs.Parsing.Form
import ModuleRunner.Proofs.Parsing.Name
import ModuleRunner.Proofs.Parsing.Reading
import ModuleRunner.Proofs.Parsing.Document
import ModuleRunner.Proofs.Parsing.Course
import ModuleRunner.Proofs.Parsing.Progress
import ModuleRunner.Proofs.Parsing.Termination
import ModuleRunner.Proofs.Parsing.Fault
import ModuleRunner.Proofs.Parsing.Spacing
import ModuleRunner.Proofs.Parsing.Precedence
import ModuleRunner.Proofs.Parsing.Composition
import ModuleRunner.Proofs.Parsing.Nesting
import ModuleRunner.Proofs.Evaluation.Regime
import ModuleRunner.Proofs.Evaluation.Agreement
import ModuleRunner.Proofs.Evaluation.Origin
import ModuleRunner.Proofs.Evaluation.Standing
import ModuleRunner.Proofs.Evaluation.Body
import ModuleRunner.Proofs.Evaluation.Hoisting
import ModuleRunner.Proofs.Session.Regime
import ModuleRunner.Proofs.Session.Standing
import ModuleRunner.Proofs.Session.Naming
import ModuleRunner.Proofs.Session.Target
import ModuleRunner.Proofs.Evaluation.Document
import ModuleRunner.Proofs.Loading.Ledger
import ModuleRunner.Proofs.Loading.Accounts
import ModuleRunner.Proofs.Session.Attendance
import ModuleRunner.Proofs.Session.Constant
import ModuleRunner.Proofs.Decimal.Count
import ModuleRunner.Proofs.Decimal.Rounding
import ModuleRunner.Proofs.Decimal.Nearest
import ModuleRunner.Proofs.Decimal.Printing
import ModuleRunner.Proofs.Decimal.Conversion
import ModuleRunner.Proofs.Lexing.Numeral
import ModuleRunner.Proofs.Script.Writing
import ModuleRunner.Proofs.Evaluation.Growth
import ModuleRunner.Proofs.Evaluation.Excerpt
import ModuleRunner.Proofs.Evaluation.Cut
import ModuleRunner.Proofs.Script.Rendering
import ModuleRunner.Proofs.Script.Primitive
import ModuleRunner.Proofs.Evaluation.Equality
import ModuleRunner.Proofs.Evaluation.Joining
import ModuleRunner.Proofs.Decimal.Word
import ModuleRunner.Proofs.Configuration.Settings
import ModuleRunner.Proofs.Configuration.Layers
import ModuleRunner.Proofs.Script.Key
import ModuleRunner.Proofs.Evaluation.Element
import ModuleRunner.Proofs.Script.Nearest
import ModuleRunner.Proofs.Session.Assignment
