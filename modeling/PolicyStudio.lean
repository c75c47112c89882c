import PolicyStudio.Calendar.Date
import PolicyStudio.Calendar.Written
import PolicyStudio.Catalog
import PolicyStudio.Decimal.Binary
import PolicyStudio.Decimal.Complex
import PolicyStudio.Decimal.Fixed
import PolicyStudio.Decimal.Layout
import PolicyStudio.Decimal.Read
import PolicyStudio.Decimal.Residue
import PolicyStudio.Decimal.Shortest
import PolicyStudio.Editor.CommandLine
import PolicyStudio.Editor.Configure
import PolicyStudio.Editor.Declaration
import PolicyStudio.Editor.Document
import PolicyStudio.Editor.Language
import PolicyStudio.Editor.Making
import PolicyStudio.Editor.Options
import PolicyStudio.Editor.Snapshot
import PolicyStudio.Editor.Surface
import PolicyStudio.Execution.Executor
import PolicyStudio.Execution.Program
import PolicyStudio.Execution.Result
import PolicyStudio.Files.Path
import PolicyStudio.Files.Tree
import PolicyStudio.Form.Field
import PolicyStudio.Form.Given
import PolicyStudio.Json.Basic
import PolicyStudio.Json.Reader
import PolicyStudio.Main
import PolicyStudio.Policy.Column
import PolicyStudio.Policy.Condition
import PolicyStudio.Policy.Context
import PolicyStudio.Policy.Definition
import PolicyStudio.Policy.Error
import PolicyStudio.Policy.Render
import PolicyStudio.Policy.Statement
import PolicyStudio.Policy.Subquery
import PolicyStudio.Policy.Templates
import PolicyStudio.Proofs.Editor.Declarations
import PolicyStudio.Proofs.Editor.Documents
import PolicyStudio.Proofs.Editor.Failing
import PolicyStudio.Proofs.Editor.Reconfiguring
import PolicyStudio.Proofs.Editor.Snapshots
import PolicyStudio.Proofs.Execution.Calling
import PolicyStudio.Proofs.Execution.Compiling
import PolicyStudio.Proofs.Execution.Expiry
import PolicyStudio.Proofs.Execution.Isolation
import PolicyStudio.Proofs.Execution.Naming
import PolicyStudio.Proofs.Execution.Outcome
import PolicyStudio.Proofs.Files.Alike
import PolicyStudio.Proofs.Files.Below
import PolicyStudio.Proofs.Files.Filling
import PolicyStudio.Proofs.Files.Finding
import PolicyStudio.Proofs.Files.Growing
import PolicyStudio.Proofs.Outcome
import PolicyStudio.Proofs.Policy.Bracketings
import PolicyStudio.Proofs.Policy.Building
import PolicyStudio.Proofs.Policy.Clauses
import PolicyStudio.Proofs.Policy.Commands
import PolicyStudio.Proofs.Policy.Comparisons
import PolicyStudio.Proofs.Policy.Connections
import PolicyStudio.Proofs.Policy.Cutting
import PolicyStudio.Proofs.Policy.Grouping
import PolicyStudio.Proofs.Policy.IndexedColumns
import PolicyStudio.Proofs.Policy.Junctions
import PolicyStudio.Proofs.Policy.LastCalls
import PolicyStudio.Proofs.Policy.Membership
import PolicyStudio.Proofs.Policy.Obtained
import PolicyStudio.Proofs.Policy.Operands
import PolicyStudio.Proofs.Policy.Placing
import PolicyStudio.Proofs.Policy.QueryCalls
import PolicyStudio.Proofs.Policy.Reading
import PolicyStudio.Proofs.Policy.ReadyMade
import PolicyStudio.Proofs.Policy.Refusals
import PolicyStudio.Proofs.Policy.Rendering
import PolicyStudio.Proofs.Policy.Roles
import PolicyStudio.Proofs.Policy.Sealing
import PolicyStudio.Proofs.Policy.SkippedIndexes
import PolicyStudio.Proofs.Policy.Statements
import PolicyStudio.Proofs.Policy.Terms
import PolicyStudio.Proofs.Policy.Unselected
import PolicyStudio.Proofs.Policy.Vetted
import PolicyStudio.Proofs.Registry.Registration
import PolicyStudio.Proofs.Script.Arguments
import PolicyStudio.Proofs.Script.Header
import PolicyStudio.Proofs.Script.Looks
import PolicyStudio.Proofs.Script.Plain
import PolicyStudio.Proofs.Script.Reading
import PolicyStudio.Proofs.Script.ReadyMade
import PolicyStudio.Proofs.Script.Refusals
import PolicyStudio.Proofs.Script.Scalars
import PolicyStudio.Proofs.Script.Steps
import PolicyStudio.Proofs.Script.Tokens
import PolicyStudio.Proofs.Script.Writing
import PolicyStudio.Proofs.Service.Asks
import PolicyStudio.Proofs.Service.Sessions
import PolicyStudio.Proofs.Service.Visits
import PolicyStudio.Proofs.Session.Copying
import PolicyStudio.Proofs.Session.Entries
import PolicyStudio.Proofs.Session.Executes
import PolicyStudio.Proofs.Session.Interleaving
import PolicyStudio.Proofs.Session.Lifecycle
import PolicyStudio.Proofs.Session.Operations
import PolicyStudio.Proofs.Session.Progress
import PolicyStudio.Proofs.Session.Recency
import PolicyStudio.Proofs.Settings
import PolicyStudio.Proofs.Sql.Constants
import PolicyStudio.Proofs.Sql.Lexeme
import PolicyStudio.Proofs.Sql.Names
import PolicyStudio.Proofs.Sql.Numerals
import PolicyStudio.Proofs.Sql.Outline
import PolicyStudio.Proofs.Sql.Paths
import PolicyStudio.Proofs.Sql.Scanning
import PolicyStudio.Proofs.Sql.Sealed
import PolicyStudio.Proofs.Text.Cutting
import PolicyStudio.Registry
import PolicyStudio.Script.Arithmetic
import PolicyStudio.Script.Builtins
import PolicyStudio.Script.Call
import PolicyStudio.Script.Compare
import PolicyStudio.Script.Describe
import PolicyStudio.Script.Dictionary
import PolicyStudio.Script.Effect
import PolicyStudio.Script.Environment
import PolicyStudio.Script.ErrorKind
import PolicyStudio.Script.ErrorText
import PolicyStudio.Script.Evaluate
import PolicyStudio.Script.Execute
import PolicyStudio.Script.Failure
import PolicyStudio.Script.Format
import PolicyStudio.Script.Grammar.Atom
import PolicyStudio.Script.Grammar.Call
import PolicyStudio.Script.Grammar.Compound
import PolicyStudio.Script.Grammar.Expression
import PolicyStudio.Script.Grammar.Formatted
import PolicyStudio.Script.Grammar.Literal
import PolicyStudio.Script.Grammar.Rules
import PolicyStudio.Script.Grammar.Simple
import PolicyStudio.Script.Grammar.State
import PolicyStudio.Script.Grammar.Target
import PolicyStudio.Script.Interpreter
import PolicyStudio.Script.Lexer
import PolicyStudio.Script.Lookup
import PolicyStudio.Script.Machine
import PolicyStudio.Script.Members
import PolicyStudio.Script.Methods
import PolicyStudio.Script.Numeral
import PolicyStudio.Script.Object
import PolicyStudio.Script.Operators
import PolicyStudio.Script.Percent
import PolicyStudio.Script.Placement
import PolicyStudio.Script.PolicyCall
import PolicyStudio.Script.PolicyMethod
import PolicyStudio.Script.Printing
import PolicyStudio.Script.Restriction
import PolicyStudio.Script.Scoping
import PolicyStudio.Script.Show
import PolicyStudio.Script.Signature
import PolicyStudio.Script.Sorting
import PolicyStudio.Script.Step
import PolicyStudio.Script.Subscript
import PolicyStudio.Script.Token
import PolicyStudio.Script.Tree
import PolicyStudio.Script.Unpack
import PolicyStudio.Script.Value
import PolicyStudio.Script.Variable
import PolicyStudio.Service.Health
import PolicyStudio.Service.Identifier
import PolicyStudio.Service.Playground
import PolicyStudio.Service.Problem
import PolicyStudio.Service.Request
import PolicyStudio.Session.State
import PolicyStudio.Session.Store
import PolicyStudio.Session.Time
import PolicyStudio.Settings
import PolicyStudio.Sql.Identifier
import PolicyStudio.Sql.Quoting
import PolicyStudio.Text.Blank
import PolicyStudio.Text.Case
import PolicyStudio.Text.CharMap
import PolicyStudio.Text.CharName
import PolicyStudio.Text.CharNameTable
import PolicyStudio.Text.CharSet
import PolicyStudio.Text.Decode
import PolicyStudio.Text.Digit
import PolicyStudio.Text.Normal
import PolicyStudio.Text.NormalTable
import PolicyStudio.Text.Printable
import PolicyStudio.Text.Quoted
import PolicyStudio.Text.Search
import PolicyStudio.Text.Utf8
import PolicyStudio.Text.Word
import PolicyStudio.Url.Address
import PolicyStudio.Url.Domain
import PolicyStudio.Url.DomainTable
import PolicyStudio.Url.Escape
import PolicyStudio.Url.Host
import PolicyStudio.Url.Punycode
import PolicyStudio.Url.Route
