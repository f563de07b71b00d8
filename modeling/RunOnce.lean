import RunOnce.Assoc
import RunOnce.Command.ActionValue
import RunOnce.Command.Catalogue
import RunOnce.Command.CommandLine
import RunOnce.Command.CompileCommand
import RunOnce.Command.Console
import RunOnce.Command.Markup
import RunOnce.Command.OptionValue
import RunOnce.Command.Registry
import RunOnce.Command.SchemaCommand
import RunOnce.Command.Style
import RunOnce.Command.Transcript
import RunOnce.Command.Trouble
import RunOnce.Command.Usage
import RunOnce.Command.ValidateCommand
import RunOnce.Command.Words
import RunOnce.Compile.Assembly
import RunOnce.Compile.DefaultTarget
import RunOnce.Compile.Parameters
import RunOnce.Compile.Procedure
import RunOnce.Digest.Sha256
import RunOnce.Document.Checked
import RunOnce.Document.Fields
import RunOnce.Document.Issue
import RunOnce.Document.Moment
import RunOnce.Document.Scalar
import RunOnce.Document.Value
import RunOnce.Expansion.Expander
import RunOnce.Expansion.PropertyTable
import RunOnce.Expansion.Reference
import RunOnce.Expression.Complaint
import RunOnce.Expression.Fault
import RunOnce.Expression.FilledText
import RunOnce.Expression.Grammar
import RunOnce.Expression.Lexer
import RunOnce.Expression.NumberLiteral
import RunOnce.Expression.Parser
import RunOnce.Expression.Rules
import RunOnce.Expression.TextLiteral
import RunOnce.Expression.Token
import RunOnce.Expression.Tree
import RunOnce.Expression.Value
import RunOnce.Failure
import RunOnce.Files.Path
import RunOnce.Files.Store
import RunOnce.Files.Tree
import RunOnce.Generated.Basic
import RunOnce.Generated.Statement
import RunOnce.Journal.Event
import RunOnce.Journal.Level
import RunOnce.Journal.Line
import RunOnce.Journal.Traced
import RunOnce.Main
import RunOnce.Model.Project
import RunOnce.Model.Property
import RunOnce.Model.Reading
import RunOnce.Model.Target
import RunOnce.Model.Writing
import RunOnce.Number.Binary64
import RunOnce.Number.Reading
import RunOnce.Ordering.CallGraph
import RunOnce.Ordering.Cycle
import RunOnce.Ordering.Dangling
import RunOnce.Ordering.Producers
import RunOnce.Ordering.TargetList
import RunOnce.Proofs.Model.Validated
import RunOnce.Proofs.Ordering.Requests
import RunOnce.Proofs.Outcome
import RunOnce.Schema.JsonText
import RunOnce.Schema.ProjectSchema
import RunOnce.Settings.Basic
import RunOnce.Settings.EnvFile
import RunOnce.Settings.Sources
import RunOnce.Source.Compilation
import RunOnce.Source.Configuration
import RunOnce.Source.Loading
import RunOnce.Text.Base64
import RunOnce.Text.Blank
import RunOnce.Text.Cased
import RunOnce.Text.CharacterNames
import RunOnce.Text.CharacterNames.FromAToG
import RunOnce.Text.CharacterNames.FromHToM
import RunOnce.Text.CharacterNames.FromNToZ
import RunOnce.Text.CharacterSets
import RunOnce.Text.Comment
import RunOnce.Text.Digit
import RunOnce.Text.Emoji
import RunOnce.Text.EmojiNames
import RunOnce.Text.Encoding
import RunOnce.Text.Halves
import RunOnce.Text.Identifier
import RunOnce.Text.Indented
import RunOnce.Text.Letter
import RunOnce.Text.LineEnd
import RunOnce.Text.Literal
import RunOnce.Text.Lowercase
import RunOnce.Text.Mark
import RunOnce.Text.Printable
import RunOnce.Text.Quoted
import RunOnce.Text.Ranges
import RunOnce.Text.Resemblance
import RunOnce.Text.Split
import RunOnce.Text.StandIn
import RunOnce.Text.Utf7
import RunOnce.Text.Utf8
import RunOnce.Text.Width
import RunOnce.Text.WidthRanges
import RunOnce.Yaml.Characters
import RunOnce.Yaml.Cursor
import RunOnce.Yaml.Load
import RunOnce.Yaml.Node
import RunOnce.Yaml.Node.Compose
import RunOnce.Yaml.Node.Construct
import RunOnce.Yaml.Node.Merge
import RunOnce.Yaml.Node.Value
import RunOnce.Yaml.Problem
import RunOnce.Yaml.Scalar
import RunOnce.Yaml.Token
import RunOnce.Yaml.Token.Lexeme
import RunOnce.Yaml.Token.Stream
import RunOnce.Proofs.Ordering.Cycle
import RunOnce.Proofs.Execution.Machine
import RunOnce.Proofs.Execution.Course
import RunOnce.Proofs.Execution.Outline
import RunOnce.Proofs.Execution.Stack
import RunOnce.Proofs.Execution.Record
import RunOnce.Proofs.Execution.Termination
import RunOnce.Proofs.Execution.Finished
import RunOnce.Proofs.Compile.Procedure
import RunOnce.Proofs.Compile.Assembly
import RunOnce.Proofs.Compile.Runs
import RunOnce.Proofs.Compile.Rejection
import RunOnce.Proofs.Ordering.Failures
import RunOnce.Proofs.Compile.Precedence
import RunOnce.Proofs.Compile.CallStructure
import RunOnce.Proofs.Expansion.Substitution
import RunOnce.Proofs.Compile.Overrides
import RunOnce.Proofs.Command.PropertyOptions
import RunOnce.Proofs.Command.Validation
import RunOnce.Proofs.Command.ClosedPrograms
import RunOnce.Proofs.Text.Token
import RunOnce.Proofs.Compile.Literals
import RunOnce.Proofs.Scheduling.Pool
import RunOnce.Proofs.Compile.Workers
import RunOnce.Proofs.Text.Lines
import RunOnce.Proofs.Compile.Written
import RunOnce.Proofs.Compile.Layout
import RunOnce.Proofs.Compile.Extension
import RunOnce.Proofs.Expansion.Lookups
import RunOnce.Proofs.Compile.Interference
import RunOnce.Proofs.Compile.Flags
import RunOnce.Proofs.Files.Actions
import RunOnce.Proofs.Source.Looking
import RunOnce.Proofs.Command.Courses
import RunOnce.Proofs.Command.Endings
import RunOnce.Proofs.Command.Traces
import RunOnce.Proofs.Command.Output
import RunOnce.Proofs.Text.Tabs
import RunOnce.Proofs.Text.Emoji
import RunOnce.Proofs.Command.Markup
import RunOnce.Proofs.Command.StatusLines
import RunOnce.Proofs.Ordering.Search
import RunOnce.Proofs.Text.RoundTrip
import RunOnce.Proofs.Expansion.Factors
import RunOnce.Proofs.Expansion.Grammar
import RunOnce.Proofs.Model.Admission
import RunOnce.Proofs.Ordering.TargetList
import RunOnce.Proofs.Ordering.Producers
import RunOnce.Proofs.Generated.Leaves
import RunOnce.Proofs.Text.Comment
import RunOnce.Proofs.Execution.Segments
import RunOnce.Proofs.Compile.Comments
import RunOnce.Proofs.Compile.SkipConditions
import RunOnce.Proofs.Compile.Bodies
import RunOnce.Proofs.Text.Mended
import RunOnce.Proofs.Compile.AuditTrail
import RunOnce.Proofs.Compile.Divergence
import RunOnce.Proofs.Model.NormalForm
import RunOnce.Proofs.Compile.SpelledLists
import RunOnce.Proofs.Expansion.Concatenation
import RunOnce.Proofs.Ordering.FirstCycle
import RunOnce.Proofs.Settings.Fields
import RunOnce.Proofs.Settings.Precedence
import RunOnce.Proofs.Text.OpenBlocks
import RunOnce.Proofs.Text.Writing
import RunOnce.Proofs.Generated.Printing
import RunOnce.Proofs.Text.StandIns
import RunOnce.Proofs.Yaml.Nesting
