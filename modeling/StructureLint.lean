import StructureLint.Analysis
import StructureLint.Analysis.Unit
import StructureLint.Attribute
import StructureLint.Command
import StructureLint.Command.Discovery
import StructureLint.Command.Display
import StructureLint.Command.Environment
import StructureLint.Command.Error
import StructureLint.Command.Invocation
import StructureLint.Config
import StructureLint.Config.Codec
import StructureLint.Config.Reader
import StructureLint.Disk
import StructureLint.Disk.Ignore
import StructureLint.Disk.Memory
import StructureLint.Disk.Notes
import StructureLint.Disk.Pattern
import StructureLint.Eligibility
import StructureLint.Finding
import StructureLint.Glob
import StructureLint.Json.Lexer
import StructureLint.Json.Number
import StructureLint.Json.Printer
import StructureLint.Json.Reader
import StructureLint.Json.Record
import StructureLint.Json.Value
import StructureLint.Main
import StructureLint.Name
import StructureLint.Number.Binary64
import StructureLint.Pass
import StructureLint.Position
import StructureLint.Position.Codec
import StructureLint.Program.Basic
import StructureLint.Program.Codec
import StructureLint.Program.Draft
import StructureLint.Program.Orbit
import StructureLint.Program.Reach
import StructureLint.Program.Symbol
import StructureLint.Proofs.Analysis.Coverage
import StructureLint.Proofs.Analysis.Isolation
import StructureLint.Proofs.Analysis.Outcomes
import StructureLint.Proofs.Analysis.Strictness
import StructureLint.Proofs.Analysis.Suppression
import StructureLint.Proofs.Analysis.Units
import StructureLint.Proofs.Cancellation
import StructureLint.Proofs.FindingLog
import StructureLint.Proofs.Json.Record
import StructureLint.Proofs.Order
import StructureLint.Proofs.Pass
import StructureLint.Proofs.Pass.Questions
import StructureLint.Proofs.Pass.Token
import StructureLint.Proofs.Program.Annotation
import StructureLint.Proofs.Program.Codec
import StructureLint.Proofs.Program.Normalization
import StructureLint.Proofs.Program.Numbering
import StructureLint.Proofs.Program.Orbit
import StructureLint.Proofs.Program.Patrol
import StructureLint.Proofs.Program.Reach
import StructureLint.Proofs.Program.References
import StructureLint.Proofs.Rule.Annotation
import StructureLint.Proofs.Rule.Builtin
import StructureLint.Proofs.Rule.Confinement
import StructureLint.Proofs.Rule.Length
import StructureLint.Proofs.Rule.Nesting
import StructureLint.Proofs.Rule.Overload.Calls
import StructureLint.Proofs.Rule.Overload.Consistency
import StructureLint.Proofs.Rule.Overload.Group
import StructureLint.Proofs.Rule.Overload.Reports
import StructureLint.Proofs.Rule.Strictness
import StructureLint.Proofs.Setting.Cached
import StructureLint.Proofs.Setting.Interleaving
import StructureLint.Proofs.Shedding
import StructureLint.Proofs.Strictness
import StructureLint.Proofs.Suppression
import StructureLint.Proofs.Syntax.Codec
import StructureLint.Proofs.Syntax.Nodes
import StructureLint.Proofs.Syntax.Numbering
import StructureLint.Report
import StructureLint.Report.Codec
import StructureLint.Rule.Arity
import StructureLint.Rule.Basic
import StructureLint.Rule.Length
import StructureLint.Rule.Nesting
import StructureLint.Rule.Overload.Consistency
import StructureLint.Rule.Overload.Group
import StructureLint.Rule.Preset
import StructureLint.Setting.Cache
import StructureLint.Setting.Resolve
import StructureLint.Setting.Table
import StructureLint.Setting.Value
import StructureLint.Severity
import StructureLint.SourcePath
import StructureLint.Suppression
import StructureLint.Syntax.Codec
import StructureLint.Syntax.Numbering
import StructureLint.Syntax.Snippet
import StructureLint.Syntax.Trace
import StructureLint.Syntax.Tree
import StructureLint.Syntax.Visit
import StructureLint.Text.Blank
import StructureLint.Text.Digits
import StructureLint.Text.Line
import StructureLint.Toml.Moment
import StructureLint.Toml.Printer
import StructureLint.Toml.Quoted
import StructureLint.Toml.Reader
import StructureLint.Toml.Scalar
import StructureLint.Toml.Table
import StructureLint.Toml.Value
import StructureLint.Proofs.Program.Erasure
import StructureLint.Proofs.Analysis.Renormalization
import StructureLint.Proofs.Config.Alias
import StructureLint.Proofs.Analysis.Registration
import StructureLint.Proofs.Setting.Restriction
import StructureLint.Proofs.Analysis.SharedCache
import StructureLint.Proofs.Analysis.Reminder
import StructureLint.Proofs.Program.CallTarget
import StructureLint.Proofs.Rule.CallTarget
import StructureLint.Proofs.Analysis.CallTarget
import StructureLint.Proofs.Config.Layering
import StructureLint.Proofs.Rule.Nesting.Lambda
import StructureLint.Proofs.Setting.Override
import StructureLint.Proofs.Rule.Length.Growth
import StructureLint.Proofs.Rule.Overload.Targets
import StructureLint.Proofs.Rule.Overload.Membership
import StructureLint.Proofs.Command.Discovery
import StructureLint.Proofs.Command.Repetition
import StructureLint.Proofs.Report
import StructureLint.Proofs.Suppression.Precedence
import StructureLint.Proofs.Rule.Threshold
import StructureLint.Proofs.Program.Virtual
import StructureLint.Proofs.Rule.Virtual
import StructureLint.Proofs.Analysis.Shedding
import StructureLint.Proofs.Analysis.Virtual
import StructureLint.Proofs.Program.Chain
import StructureLint.Proofs.Command.Display
import StructureLint.Proofs.Program.Draft.Ownership
import StructureLint.Proofs.Program.Draft.Placement
import StructureLint.Proofs.Text.Blank
import StructureLint.Proofs.Setting.Count
import StructureLint.Proofs.Name
import StructureLint.Proofs.Rule.Overload.Order
import StructureLint.Proofs.Config.ListOption
