import ComponentCensus.Command.Action
import ComponentCensus.Command.Given
import ComponentCensus.Command.Integer
import ComponentCensus.Command.Line
import ComponentCensus.Command.Project
import ComponentCensus.Command.Repositories
import ComponentCensus.Command.Run
import ComponentCensus.Complexity.Analysis
import ComponentCensus.Complexity.Catalog
import ComponentCensus.Complexity.Level
import ComponentCensus.Complexity.Measured
import ComponentCensus.Console.Event
import ComponentCensus.Console.Plain
import ComponentCensus.Console.Section
import ComponentCensus.Entries
import ComponentCensus.Fault
import ComponentCensus.Files.Discovery
import ComponentCensus.Files.Glob
import ComponentCensus.Files.Home
import ComponentCensus.Files.Path
import ComponentCensus.Files.Tree
import ComponentCensus.Files.Wildcard
import ComponentCensus.Json.Printer
import ComponentCensus.Json.Reader
import ComponentCensus.Lockfile.Load
import ComponentCensus.Lockfile.Npm
import ComponentCensus.Lockfile.Pnpm
import ComponentCensus.Lockfile.Versions
import ComponentCensus.Lockfile.Yarn
import ComponentCensus.Main
import ComponentCensus.Names
import ComponentCensus.Number.Binary64
import ComponentCensus.Number.Decimal
import ComponentCensus.Number.Digits
import ComponentCensus.Number.Power
import ComponentCensus.Number.Rounding
import ComponentCensus.Number.Total
import ComponentCensus.Output.Document
import ComponentCensus.Output.Markdown
import ComponentCensus.Package.Aggregate
import ComponentCensus.Package.Attribution
import ComponentCensus.Package.Comparison
import ComponentCensus.Proofs.Integrity
import ComponentCensus.Report.Basic
import ComponentCensus.Report.Findings
import ComponentCensus.Report.LibraryFilter
import ComponentCensus.Repository.Facts
import ComponentCensus.Repository.Fetch
import ComponentCensus.Repository.Recorded
import ComponentCensus.Repository.Reference
import ComponentCensus.Scan.Batch
import ComponentCensus.Scan.Readers
import ComponentCensus.Scan.Snapshot
import ComponentCensus.Scan.Source
import ComponentCensus.Settings.Basic
import ComponentCensus.Settings.Load
import ComponentCensus.Share
import ComponentCensus.Syntax.Error
import ComponentCensus.Syntax.Kind
import ComponentCensus.Syntax.Name
import ComponentCensus.Syntax.Node
import ComponentCensus.Syntax.Row
import ComponentCensus.Syntax.Site
import ComponentCensus.Syntax.Unwrap
import ComponentCensus.Text.Blank
import ComponentCensus.Text.Case
import ComponentCensus.Text.Cased
import ComponentCensus.Text.Digit
import ComponentCensus.Text.Lines
import ComponentCensus.Text.Printable
import ComponentCensus.Text.Quoted
import ComponentCensus.Text.Range
import ComponentCensus.Text.Split
import ComponentCensus.Text.Utf8
import ComponentCensus.Text.Word
import ComponentCensus.Usage.Binding
import ComponentCensus.Usage.Call
import ComponentCensus.Usage.Census
import ComponentCensus.Usage.Collection
import ComponentCensus.Usage.Element
import ComponentCensus.Usage.Import
import ComponentCensus.Usage.Props
import ComponentCensus.Usage.Reference
import ComponentCensus.Usage.Walk
import ComponentCensus.Value.Access
import ComponentCensus.Value.Basic
import ComponentCensus.Value.Moment
import ComponentCensus.Value.Order
import ComponentCensus.Value.Quantity
import ComponentCensus.Value.Serialized
import ComponentCensus.Value.Yaml
import ComponentCensus.Proofs.Renderings
import ComponentCensus.Proofs.ImportedNames
import ComponentCensus.Proofs.Likeness
import ComponentCensus.Proofs.Readings
import ComponentCensus.Proofs.Notes
import ComponentCensus.Proofs.Walks
import ComponentCensus.Proofs.Wrappers
import ComponentCensus.Proofs.Comments
import ComponentCensus.Proofs.Growth
import ComponentCensus.Proofs.Lines
import ComponentCensus.Proofs.KnownNames
import ComponentCensus.Proofs.AddedImports
import ComponentCensus.Proofs.Descent
import ComponentCensus.Proofs.Writes
import ComponentCensus.Proofs.LoadedModules
import ComponentCensus.Proofs.Provenance
import ComponentCensus.Proofs.ImportsFirst
import ComponentCensus.Proofs.Counted
import ComponentCensus.Proofs.Aggregation
import ComponentCensus.Proofs.Bindings
import ComponentCensus.Proofs.Retention
import ComponentCensus.Proofs.Tracing
import ComponentCensus.Proofs.Uses
import ComponentCensus.Proofs.PackageUsage
import ComponentCensus.Proofs.FileOrder
import ComponentCensus.Proofs.Percentages
import ComponentCensus.Proofs.Monotonicity
import ComponentCensus.Proofs.ScalarText
import ComponentCensus.Proofs.RoundTrip
import ComponentCensus.Proofs.Foreign
import ComponentCensus.Proofs.Contraction
import ComponentCensus.Proofs.Pool
import ComponentCensus.Proofs.Isolation
import ComponentCensus.Proofs.Cuts
import ComponentCensus.Proofs.YarnFormats
import ComponentCensus.Proofs.Specificity
import ComponentCensus.Proofs.Hoisting
import ComponentCensus.Proofs.Distribution
import ComponentCensus.Proofs.Capture
import ComponentCensus.Proofs.Nesting
import ComponentCensus.Proofs.PackageKeys
import ComponentCensus.Proofs.Precedence
import ComponentCensus.Proofs.LockfileShapes
import ComponentCensus.Proofs.WritableTexts
import ComponentCensus.Proofs.BadLockfiles
import ComponentCensus.Proofs.Merging
import ComponentCensus.Proofs.DroppedDetails
import ComponentCensus.Proofs.WrittenReferences
import ComponentCensus.Proofs.Overlays
import ComponentCensus.Proofs.ExcludedDirectories
import ComponentCensus.Proofs.FileLimit
import ComponentCensus.Proofs.RepositoryForms
import ComponentCensus.Proofs.CloneAttempts
import ComponentCensus.Proofs.FirstError
import ComponentCensus.Proofs.Rows
import ComponentCensus.Proofs.Documents
import ComponentCensus.Proofs.Ascent
import ComponentCensus.Proofs.Serialization
import ComponentCensus.Proofs.WritableTexts
