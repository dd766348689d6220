import SchemaSemver.Change.Compare
import SchemaSemver.Change.Outcome
import SchemaSemver.Check.ExitStatus
import SchemaSemver.Check.Failure
import SchemaSemver.Check.Report
import SchemaSemver.Check.Run
import SchemaSemver.CommandLine.Help
import SchemaSemver.CommandLine.Options
import SchemaSemver.CommandLine.Session
import SchemaSemver.Files.Host
import SchemaSemver.Files.Path
import SchemaSemver.Introspection.Projection
import SchemaSemver.Json.Display
import SchemaSemver.Json.Reader
import SchemaSemver.Json.Value
import SchemaSemver.Log
import SchemaSemver.Main
import SchemaSemver.Number.Binary64
import SchemaSemver.Revision.GitStore
import SchemaSemver.Revision.Read
import SchemaSemver.Revision.Recording
import SchemaSemver.Schema.Declaration
import SchemaSemver.Schema.Definition
import SchemaSemver.Schema.Extraction
import SchemaSemver.Schema.OfText
import SchemaSemver.Schema.TypeRef
import SchemaSemver.Sdl.Document
import SchemaSemver.Sdl.Lexer
import SchemaSemver.Sdl.Parser
import SchemaSemver.Sdl.Rules
import SchemaSemver.Sdl.Standard
import SchemaSemver.Sdl.Token
import SchemaSemver.Settings.Fault
import SchemaSemver.Settings.Load
import SchemaSemver.Text.Blank
import SchemaSemver.Text.DecimalDigit
import SchemaSemver.Text.Encoding
import SchemaSemver.Text.Hexadecimal
import SchemaSemver.Text.Joined
import SchemaSemver.Text.LooseText
import SchemaSemver.Text.Printable
import SchemaSemver.Text.Quoted
import SchemaSemver.Text.Similarity
import SchemaSemver.Text.Utf16
import SchemaSemver.Text.Utf32
import SchemaSemver.Text.Utf8
import SchemaSemver.TypeSystem.Annotation
import SchemaSemver.TypeSystem.Answer
import SchemaSemver.TypeSystem.Schema
import SchemaSemver.TypeSystem.Validity
import SchemaSemver.Version.Marker
import SchemaSemver.Version.Policy
import SchemaSemver.Version.SemVer
import SchemaSemver.Yaml.Annotation
import SchemaSemver.Yaml.Character
import SchemaSemver.Yaml.Composition
import SchemaSemver.Yaml.Cursor
import SchemaSemver.Yaml.Evaluation
import SchemaSemver.Yaml.Graph
import SchemaSemver.Yaml.Layout
import SchemaSemver.Yaml.Meaning
import SchemaSemver.Yaml.Merging
import SchemaSemver.Yaml.Moment
import SchemaSemver.Yaml.Number
import SchemaSemver.Yaml.Scalar.Block
import SchemaSemver.Yaml.Scalar.Plain
import SchemaSemver.Yaml.Scalar.Quoted
import SchemaSemver.Yaml.Token
import SchemaSemver.Yaml.Value
import SchemaSemver.Proofs.Schema.Name
import SchemaSemver.Proofs.Schema.Ownership
import SchemaSemver.Proofs.Schema.Signature
import SchemaSemver.Proofs.Schema.Member
import SchemaSemver.Proofs.Schema.Identity
import SchemaSemver.Proofs.Change.Compare
import SchemaSemver.Proofs.Change.Reference
import SchemaSemver.Proofs.Change.Composition
import SchemaSemver.Proofs.Change.PossibleTypes
import SchemaSemver.Proofs.Change.Independence
import SchemaSemver.Proofs.Version.History
import SchemaSemver.Proofs.Version.Marker
import SchemaSemver.Proofs.Result
import SchemaSemver.Proofs.Introspection.Rejection
import SchemaSemver.Proofs.Check.Releases
import SchemaSemver.Proofs.Check.Stages
import SchemaSemver.Proofs.Check.Certificate
import SchemaSemver.Proofs.Change.Exactness
import SchemaSemver.Proofs.Change.Rearrangement
import SchemaSemver.Proofs.CommandLine.Session
import SchemaSemver.Proofs.Schema.Accounting
import SchemaSemver.Proofs.Schema.Origin
import SchemaSemver.Proofs.Introspection.Reference
import SchemaSemver.Proofs.Introspection.Relevance
import SchemaSemver.Proofs.Introspection.Breakdown
import SchemaSemver.Proofs.Files.Finding
import SchemaSemver.Proofs.Files.Resolving
import SchemaSemver.Proofs.Settings.Load
import SchemaSemver.Proofs.Settings.Acceptance
import SchemaSemver.Proofs.Text.Encoding
import SchemaSemver.Proofs.Settings.Encoding
import SchemaSemver.Proofs.Json.Grammar
import SchemaSemver.Proofs.Text.Decimal
import SchemaSemver.Proofs.Json.Scalar
import SchemaSemver.Proofs.Json.Reading
import SchemaSemver.Proofs.Json.LongInteger
import SchemaSemver.Proofs.Version.Format
import SchemaSemver.Proofs.Check.Report
import SchemaSemver.Proofs.Change.Parents
