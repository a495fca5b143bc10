import HeapQuery.Argument
import HeapQuery.Argument.Spec
import HeapQuery.Bindings
import HeapQuery.Bindings.Execution
import HeapQuery.ClassPattern
import HeapQuery.Cli
import HeapQuery.Cli.Action
import HeapQuery.Cli.Messages
import HeapQuery.Cli.Options
import HeapQuery.Cli.Perform
import HeapQuery.Cli.Show
import HeapQuery.Command
import HeapQuery.CommandLine
import HeapQuery.Config
import HeapQuery.Context
import HeapQuery.Conversion
import HeapQuery.Field
import HeapQuery.Files
import HeapQuery.Heap.Environment
import HeapQuery.Heap.Histogram
import HeapQuery.Heap.Listing
import HeapQuery.Heap.Queries
import HeapQuery.Heap.Selection
import HeapQuery.Heap.ShowObjects
import HeapQuery.Heap.Snapshot
import HeapQuery.Heap.TopConsumers
import HeapQuery.Inspection
import HeapQuery.Json
import HeapQuery.Json.Printer
import HeapQuery.Json.Reader
import HeapQuery.Label
import HeapQuery.Main
import HeapQuery.Menu
import HeapQuery.Number.Binary
import HeapQuery.Number.Layout
import HeapQuery.Number.Literal
import HeapQuery.Number.Shortest
import HeapQuery.Path
import HeapQuery.Pattern
import HeapQuery.Proofs.AbsolutePaths
import HeapQuery.Proofs.AddressRuns
import HeapQuery.Proofs.ArgumentGroups
import HeapQuery.Proofs.BoundArguments
import HeapQuery.Proofs.BrokenLines
import HeapQuery.Proofs.CanceledRuns
import HeapQuery.Proofs.CanonicalLine
import HeapQuery.Proofs.CatalogRuns
import HeapQuery.Proofs.CategoryPaths
import HeapQuery.Proofs.CategoryRuns
import HeapQuery.Proofs.ClassPatterns
import HeapQuery.Proofs.ClassTails
import HeapQuery.Proofs.ClauseOrder
import HeapQuery.Proofs.CursorRuns
import HeapQuery.Proofs.DocumentedLibraries
import HeapQuery.Proofs.EnclosedRuns
import HeapQuery.Proofs.ExecutionSteps
import HeapQuery.Proofs.FlagCase
import HeapQuery.Proofs.FloatTexts
import HeapQuery.Proofs.FragmentGroups
import HeapQuery.Proofs.FragmentTokens
import HeapQuery.Proofs.GlobPatterns
import HeapQuery.Proofs.Grammar
import HeapQuery.Proofs.GroupTails
import HeapQuery.Proofs.HeapRuns
import HeapQuery.Proofs.HeldValues
import HeapQuery.Proofs.Histograms
import HeapQuery.Proofs.Labels
import HeapQuery.Proofs.LargestConsumers
import HeapQuery.Proofs.LastMarks
import HeapQuery.Proofs.LegibleValues
import HeapQuery.Proofs.LineCuts
import HeapQuery.Proofs.LineGroups
import HeapQuery.Proofs.LineParsed
import HeapQuery.Proofs.LineReplay
import HeapQuery.Proofs.LineRoundTrip
import HeapQuery.Proofs.LowerCase
import HeapQuery.Proofs.Lowered
import HeapQuery.Proofs.MenuDrafts
import HeapQuery.Proofs.MenuLayout
import HeapQuery.Proofs.NameLookup
import HeapQuery.Proofs.NormalTexts
import HeapQuery.Proofs.NullOverrides
import HeapQuery.Proofs.Numerals
import HeapQuery.Proofs.Outcomes
import HeapQuery.Proofs.ParsedBindings
import HeapQuery.Proofs.Presets
import HeapQuery.Proofs.Rankings
import HeapQuery.Proofs.Registered
import HeapQuery.Proofs.ReportedDefaults
import HeapQuery.Proofs.Rounding
import HeapQuery.Proofs.RunTraces
import HeapQuery.Proofs.SelectedObjects
import HeapQuery.Proofs.Selections
import HeapQuery.Proofs.ShortDescriptions
import HeapQuery.Proofs.ShortestDecimals
import HeapQuery.Proofs.ShownObjects
import HeapQuery.Proofs.SourceTails
import HeapQuery.Proofs.Spans
import HeapQuery.Proofs.StandardLibrary
import HeapQuery.Proofs.StatefulCommands
import HeapQuery.Proofs.StoredLists
import HeapQuery.Proofs.SuppliedValues
import HeapQuery.Proofs.TableLayout
import HeapQuery.Proofs.TokenText
import HeapQuery.Proofs.Totals
import HeapQuery.Proofs.TranslatedRuns
import HeapQuery.Proofs.TypeLookup
import HeapQuery.Proofs.TypedNames
import HeapQuery.Proofs.ValueTexts
import HeapQuery.Proofs.WellFormedSpecs
import HeapQuery.Proofs.WholePatterns
import HeapQuery.Proofs.WordRuns
import HeapQuery.Proofs.Wordless
import HeapQuery.Query
import HeapQuery.Query.Spec
import HeapQuery.QueryError
import HeapQuery.Regex
import HeapQuery.Regex.CharSet
import HeapQuery.Regex.Expr
import HeapQuery.Regex.Expr.Reader
import HeapQuery.Regex.Library
import HeapQuery.Regex.Meaning
import HeapQuery.Regex.PropertyName
import HeapQuery.Regex.PropertySet
import HeapQuery.Registry
import HeapQuery.Report.Script
import HeapQuery.Report.Style
import HeapQuery.Report.Table
import HeapQuery.Run
import HeapQuery.Text.Age
import HeapQuery.Text.Alphabetic
import HeapQuery.Text.Blank
import HeapQuery.Text.Case
import HeapQuery.Text.Category
import HeapQuery.Text.Category.Table
import HeapQuery.Text.CodePoint
import HeapQuery.Text.Folding
import HeapQuery.Text.Property.Table
import HeapQuery.Text.Quoted
import HeapQuery.Text.Ranges
import HeapQuery.Text.Script
import HeapQuery.Text.Script.Shared
import HeapQuery.Text.Script.Table
import HeapQuery.Token
import HeapQuery.Toml.Number
import HeapQuery.Toml.Reader
import HeapQuery.Toml.Text
import HeapQuery.Toml.Tree
import HeapQuery.Translations
import HeapQuery.Value
import HeapQuery.ValueType
