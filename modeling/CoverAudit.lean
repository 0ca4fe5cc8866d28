import CoverAudit.Annotations
import CoverAudit.Audit
import CoverAudit.Audit.Check
import CoverAudit.Audit.Collector
import CoverAudit.Audit.Dispatch
import CoverAudit.Audit.Dispatcher
import CoverAudit.Audit.Violation
import CoverAudit.CommandLine
import CoverAudit.CommandLine.Options
import CoverAudit.CommandLine.Run
import CoverAudit.Datum
import CoverAudit.Docblock
import CoverAudit.Files.Path
import CoverAudit.Files.SourceFiles
import CoverAudit.Files.Tree
import CoverAudit.Log
import CoverAudit.Main
import CoverAudit.Reference
import CoverAudit.Report
import CoverAudit.Report.JsonValue
import CoverAudit.Report.Moment
import CoverAudit.Runner.Session
import CoverAudit.Runner.TestItem
import CoverAudit.Runner.TestReport
import CoverAudit.Settings
import CoverAudit.Settings.File
import CoverAudit.Source.Grammar.Expression
import CoverAudit.Source.Grammar.Parser
import CoverAudit.Source.Grammar.Pattern
import CoverAudit.Source.Grammar.Statement
import CoverAudit.Source.Identifier
import CoverAudit.Source.Literal
import CoverAudit.Source.Literal.Formatted
import CoverAudit.Source.Token
import CoverAudit.Source.Token.Number
import CoverAudit.Source.Token.Scan
import CoverAudit.Source.Tree
import CoverAudit.Suite.Collect
import CoverAudit.Suite.Marker
import CoverAudit.Suite.TestNode
import CoverAudit.Symbol.Declarations
import CoverAudit.Symbol.Index
import CoverAudit.Symbol.KnownClass
import CoverAudit.Symbol.Member
import CoverAudit.Symbol.Resolve
import CoverAudit.Symbol.SourceRoot
import CoverAudit.Table
import CoverAudit.Text.Blank
import CoverAudit.Text.Digit
import CoverAudit.Text.Lower
import CoverAudit.Text.Printable
import CoverAudit.Text.Quoted
import CoverAudit.Text.Ranges
import CoverAudit.Text.Split
import CoverAudit.Yaml.Fault
import CoverAudit.Yaml.Graph
import CoverAudit.Yaml.Node
import CoverAudit.Yaml.Scalar
import CoverAudit.Yaml.Tag
import CoverAudit.Yaml.Token
import CoverAudit.Yaml.Token.Cursor
import CoverAudit.Yaml.Token.Scalar
import CoverAudit.Yaml.Token.Scan
import CoverAudit.Proofs.Symbol.Built
import CoverAudit.Proofs.Audit.Acceptance
import CoverAudit.Proofs.Symbol.AliasChain
import CoverAudit.Proofs.Symbol.MemberSearch
import CoverAudit.Proofs.Symbol.Modules
import CoverAudit.Proofs.Symbol.LocalBase
import CoverAudit.Proofs.Symbol.SpelledBase
import CoverAudit.Proofs.Audit.Walk
import CoverAudit.Proofs.Audit.Completions
import CoverAudit.Proofs.Report.Reading
import CoverAudit.Proofs.CommandLine.CheckReport
import CoverAudit.Proofs.Runner.Amended
import CoverAudit.Proofs.Runner.TestRuns
import CoverAudit.Proofs.Runner.Extraction
import CoverAudit.Proofs.Suite.Found
import CoverAudit.Proofs.Files.Listing
import CoverAudit.Proofs.Files.Removal
import CoverAudit.Proofs.Audit.BrokenFiles
import CoverAudit.Proofs.Suite.Identifiers
import CoverAudit.Proofs.Symbol.ModuleOrder
import CoverAudit.Proofs.Symbol.ModuleWrites
import CoverAudit.Proofs.Symbol.Registered
import CoverAudit.Audit.Validation
import CoverAudit.Proofs.Audit.Blocks
import CoverAudit.Audit.Inquiry
import CoverAudit.Proofs.Audit.MemberQuestions
import CoverAudit.Proofs.Suite.ModuleTests
import CoverAudit.Proofs.Text.Pattern
import CoverAudit.Proofs.Docblock.TagPattern
import CoverAudit.Proofs.Docblock.Layout
import CoverAudit.Proofs.Settings.Loading
import CoverAudit.Proofs.Runner.AnnotationSources
import CoverAudit.Proofs.Symbol.RelativeImport
import CoverAudit.Proofs.Symbol.NestedBase
import CoverAudit.Proofs.Audit.ReferenceParts
import CoverAudit.Proofs.Audit.CollectedByTest
import CoverAudit.Proofs.Symbol.LongestAlias
import CoverAudit.Proofs.Symbol.RootModules
