import QueryLinker.Console.Argument
import QueryLinker.Console.Block
import QueryLinker.Console.Emoji
import QueryLinker.Console.EmojiNames
import QueryLinker.Console.Line
import QueryLinker.Console.Literal.Escape
import QueryLinker.Console.Literal.Expr
import QueryLinker.Console.Literal.Flaw
import QueryLinker.Console.Literal.Formatted
import QueryLinker.Console.Literal.Grammar
import QueryLinker.Console.Literal.Lexer
import QueryLinker.Console.Literal.Pattern
import QueryLinker.Console.Literal.Reading
import QueryLinker.Console.Literal.Token
import QueryLinker.Console.Literal.Value
import QueryLinker.Console.Markup
import QueryLinker.Console.Style
import QueryLinker.Console.StyledText
import QueryLinker.Console.Table
import QueryLinker.Digest.Sha256
import QueryLinker.Files.Portion
import QueryLinker.Files.Tree
import QueryLinker.Graphql.BlockString
import QueryLinker.Graphql.Error
import QueryLinker.Graphql.Lexer
import QueryLinker.Graphql.Parser
import QueryLinker.Graphql.Printer
import QueryLinker.Graphql.Source
import QueryLinker.Graphql.Spread
import QueryLinker.Graphql.Syntax
import QueryLinker.Graphql.Token
import QueryLinker.Insertion
import QueryLinker.Json.Basic
import QueryLinker.Json.Display
import QueryLinker.Json.Fingerprint
import QueryLinker.Json.Printer
import QueryLinker.Json.Reader
import QueryLinker.Keyed
import QueryLinker.Limits
import QueryLinker.Link.Collection
import QueryLinker.Link.Compile
import QueryLinker.Link.CompileError
import QueryLinker.Link.Definition
import QueryLinker.Link.Event
import QueryLinker.Link.Location
import QueryLinker.Link.Problem
import QueryLinker.Link.Resolver
import QueryLinker.Link.SourceDocument
import QueryLinker.Link.StaticQuery
import QueryLinker.Link.Suggestion
import QueryLinker.Link.Table
import QueryLinker.Main
import QueryLinker.Number.Arithmetic
import QueryLinker.Number.Binary64
import QueryLinker.Number.Integer
import QueryLinker.Number.Real
import QueryLinker.Number.RealText
import QueryLinker.Path.Basic
import QueryLinker.Project.CachePath
import QueryLinker.Project.Command
import QueryLinker.Project.CompileRun
import QueryLinker.Project.Config
import QueryLinker.Project.Discovery
import QueryLinker.Project.Duration
import QueryLinker.Project.Failure
import QueryLinker.Project.Http
import QueryLinker.Project.Introspection
import QueryLinker.Project.LogLevel
import QueryLinker.Project.Report
import QueryLinker.Project.SchemaProfile
import QueryLinker.Project.Session
import QueryLinker.Project.SourceFile
import QueryLinker.Project.TaggedTemplate
import QueryLinker.Proofs.Console.Block
import QueryLinker.Proofs.Console.Layout
import QueryLinker.Proofs.Console.Markup
import QueryLinker.Proofs.Except
import QueryLinker.Proofs.Files.Directory
import QueryLinker.Proofs.Files.Tree
import QueryLinker.Proofs.Files.Written
import QueryLinker.Proofs.Graphql.Locs
import QueryLinker.Proofs.Graphql.Parser
import QueryLinker.Proofs.Graphql.Spread
import QueryLinker.Proofs.Json.Canonical
import QueryLinker.Proofs.Json.Letters
import QueryLinker.Proofs.Json.Number
import QueryLinker.Proofs.Json.RoundTrip
import QueryLinker.Proofs.Link.Account
import QueryLinker.Proofs.Link.Agreement
import QueryLinker.Proofs.Link.AppendNew
import QueryLinker.Proofs.Link.Collection
import QueryLinker.Proofs.Link.Conflict
import QueryLinker.Proofs.Link.Ending
import QueryLinker.Proofs.Link.Exploration
import QueryLinker.Proofs.Link.FailedFragment
import QueryLinker.Proofs.Link.FragmentCycle
import QueryLinker.Proofs.Link.Locality
import QueryLinker.Proofs.Link.Minimal
import QueryLinker.Proofs.Link.Order
import QueryLinker.Proofs.Link.Outcome
import QueryLinker.Proofs.Link.Pass
import QueryLinker.Proofs.Link.Progress
import QueryLinker.Proofs.Link.Reported
import QueryLinker.Proofs.Link.Resolver
import QueryLinker.Proofs.Link.Ring
import QueryLinker.Proofs.Link.SpreadGraph
import QueryLinker.Proofs.Link.StaticQuery
import QueryLinker.Proofs.Link.Suggestion
import QueryLinker.Proofs.Link.Table
import QueryLinker.Proofs.Link.UnknownFragment
import QueryLinker.Proofs.Link.Walk
import QueryLinker.Proofs.Link.WalkExploration
import QueryLinker.Proofs.Number.Binary64
import QueryLinker.Proofs.Path.Basic
import QueryLinker.Proofs.Project.Attribution
import QueryLinker.Proofs.Project.CompileRun
import QueryLinker.Proofs.Project.Discovery
import QueryLinker.Proofs.Project.Fingerprint
import QueryLinker.Proofs.Project.Gate
import QueryLinker.Proofs.Project.Introspection
import QueryLinker.Proofs.Project.Isolation
import QueryLinker.Proofs.Project.Pull
import QueryLinker.Proofs.Project.Reading
import QueryLinker.Proofs.Project.Report
import QueryLinker.Proofs.Project.SchemaCache
import QueryLinker.Proofs.Project.SchemaProfile
import QueryLinker.Proofs.Project.Session
import QueryLinker.Proofs.Project.SourceFile
import QueryLinker.Proofs.Project.TaggedTemplate
import QueryLinker.Proofs.Text.EditScript
import QueryLinker.Proofs.Text.Utf8
import QueryLinker.Proofs.Text.Words
import QueryLinker.Proofs.Time.Timestamp
import QueryLinker.Proofs.Url.Endpoint
import QueryLinker.Proofs.Validation.Cycles
import QueryLinker.Proofs.Validation.Executable
import QueryLinker.Proofs.Validation.Needed
import QueryLinker.Proofs.Validation.Report
import QueryLinker.Schema.Basic
import QueryLinker.Schema.Build
import QueryLinker.Schema.Check
import QueryLinker.Schema.Draft
import QueryLinker.Schema.Failure
import QueryLinker.Schema.Introspection
import QueryLinker.Schema.Literal
import QueryLinker.Schema.Standard
import QueryLinker.Text.Alphanumeric
import QueryLinker.Text.Base64
import QueryLinker.Text.Blank
import QueryLinker.Text.CellWidth
import QueryLinker.Text.CharRange
import QueryLinker.Text.CharacterName
import QueryLinker.Text.Cluster
import QueryLinker.Text.EditDistance
import QueryLinker.Text.Identifier
import QueryLinker.Text.LetterCase
import QueryLinker.Text.Lines
import QueryLinker.Text.LooseText
import QueryLinker.Text.NaturalOrder
import QueryLinker.Text.Printable
import QueryLinker.Text.Quoted
import QueryLinker.Text.Suggestion
import QueryLinker.Text.Utf8
import QueryLinker.Text.Words
import QueryLinker.Time.Timestamp
import QueryLinker.Time.Written
import QueryLinker.Url.Basic
import QueryLinker.Url.Bracketed
import QueryLinker.Validation.Rule
import QueryLinker.Validation.Rules.Arguments
import QueryLinker.Validation.Rules.Definitions
import QueryLinker.Validation.Rules.Directives
import QueryLinker.Validation.Rules.Fields
import QueryLinker.Validation.Rules.Fragments
import QueryLinker.Validation.Rules.Operations
import QueryLinker.Validation.Rules.Overlap
import QueryLinker.Validation.Rules.Subscriptions
import QueryLinker.Validation.Rules.Types
import QueryLinker.Validation.Rules.Values
import QueryLinker.Validation.Rules.Variables
import QueryLinker.Validation.Subject
import QueryLinker.Validation.Traversal
import QueryLinker.Validation.Validate
import QueryLinker.Yaml.BlockText
import QueryLinker.Yaml.Cursor
import QueryLinker.Yaml.Document
import QueryLinker.Yaml.Evaluation
import QueryLinker.Yaml.Flaw
import QueryLinker.Yaml.Lexer
import QueryLinker.Yaml.Node
import QueryLinker.Yaml.PlainText
import QueryLinker.Yaml.Property
import QueryLinker.Yaml.QuotedText
import QueryLinker.Yaml.Scalar
import QueryLinker.Yaml.ScalarValue
import QueryLinker.Yaml.Source
import QueryLinker.Yaml.Token
import QueryLinker.Yaml.Value
