import SpecScribe.Analysis.Chunks
import SpecScribe.Analysis.Combine
import SpecScribe.Analysis.Response
import SpecScribe.Bench.Coverage
import SpecScribe.Bench.Measure
import SpecScribe.Bench.Plateau
import SpecScribe.Bench.Scenario.Asking
import SpecScribe.Bench.Scenario.Basic
import SpecScribe.Bench.Scenario.Parsing
import SpecScribe.Bench.Scenario.Running
import SpecScribe.Bench.Scenario.Writing
import SpecScribe.Bench.Verdict
import SpecScribe.Checks.Command
import SpecScribe.Checks.Runner
import SpecScribe.Chunk.Basic
import SpecScribe.Chunk.Enhanced
import SpecScribe.Chunk.Splitting
import SpecScribe.ClassStructure
import SpecScribe.Datum
import SpecScribe.Datum.Access
import SpecScribe.Datum.Conversion
import SpecScribe.Datum.Describe
import SpecScribe.Datum.Order
import SpecScribe.Document.Change
import SpecScribe.Document.Output
import SpecScribe.Document.Section
import SpecScribe.Document.Specification
import SpecScribe.Document.Table
import SpecScribe.Document.Truncate
import SpecScribe.Element
import SpecScribe.Fault
import SpecScribe.Generation.Basic
import SpecScribe.Install.Command
import SpecScribe.Install.Installer
import SpecScribe.Json.Error
import SpecScribe.Json.Parser
import SpecScribe.Language
import SpecScribe.Main
import SpecScribe.Model.Connection
import SpecScribe.Model.Request
import SpecScribe.Model.Session
import SpecScribe.Modules.Analyzer
import SpecScribe.Modules.Basic
import SpecScribe.Modules.Imports
import SpecScribe.Number.Basic
import SpecScribe.Number.Binary
import SpecScribe.Number.Fixed
import SpecScribe.Number.Reader
import SpecScribe.Number.Shortest
import SpecScribe.Outline.Head
import SpecScribe.Outline.Lookup
import SpecScribe.Outline.Tree
import SpecScribe.Processing.Basic
import SpecScribe.Program.Basic
import SpecScribe.Program.CommandLine
import SpecScribe.Program.Display
import SpecScribe.Prompt.Library
import SpecScribe.Prompt.Listing
import SpecScribe.Prompt.Template
import SpecScribe.Proofs.Analysis.Agreement
import SpecScribe.Proofs.Analysis.Combining
import SpecScribe.Proofs.Analysis.Embedded
import SpecScribe.Proofs.Analysis.Gathering
import SpecScribe.Proofs.Bench.Plateau
import SpecScribe.Proofs.Bench.Printing
import SpecScribe.Proofs.Checks.Commands
import SpecScribe.Proofs.Checks.Report
import SpecScribe.Proofs.Chunk.Classes
import SpecScribe.Proofs.Datum.Keys
import SpecScribe.Proofs.Datum.Shape
import SpecScribe.Proofs.Document.Cells
import SpecScribe.Proofs.Document.Sections
import SpecScribe.Proofs.Document.Table
import SpecScribe.Proofs.Document.Truncation
import SpecScribe.Proofs.Effect
import SpecScribe.Proofs.Fault
import SpecScribe.Proofs.Generation.Alignment
import SpecScribe.Proofs.Generation.Batches
import SpecScribe.Proofs.Generation.Enhanced
import SpecScribe.Proofs.Generation.Totality
import SpecScribe.Proofs.Install.Answer
import SpecScribe.Proofs.Json.Extension
import SpecScribe.Proofs.Model.Ask
import SpecScribe.Proofs.Model.Credentials
import SpecScribe.Proofs.Model.Exchange
import SpecScribe.Proofs.Model.Rate
import SpecScribe.Proofs.Model.Retry
import SpecScribe.Proofs.Modules.Chunks
import SpecScribe.Proofs.Modules.Consistency
import SpecScribe.Proofs.Modules.ImportStatements
import SpecScribe.Proofs.Modules.ScriptImports
import SpecScribe.Proofs.Number.Arithmetic
import SpecScribe.Proofs.Number.Double
import SpecScribe.Proofs.Number.Rounding
import SpecScribe.Proofs.Processing.Accounting
import SpecScribe.Proofs.Processing.Interleaving
import SpecScribe.Proofs.Program.FileAnalysis
import SpecScribe.Proofs.Program.Saving
import SpecScribe.Proofs.Schema.Fields
import SpecScribe.Proofs.Settings.Window
import SpecScribe.Proofs.Shell.Arguments
import SpecScribe.Proofs.Shell.Running
import SpecScribe.Proofs.Syntax.Docs
import SpecScribe.Proofs.Syntax.Extraction
import SpecScribe.Proofs.Syntax.Matching
import SpecScribe.Proofs.Syntax.Methods
import SpecScribe.Proofs.Syntax.Names
import SpecScribe.Proofs.Syntax.Parts
import SpecScribe.Proofs.Syntax.Quotes
import SpecScribe.Proofs.Syntax.Span
import SpecScribe.Proofs.Text.Occurrences
import SpecScribe.Proofs.Text.Splitting
import SpecScribe.Proofs.Text.Utf8
import SpecScribe.Proofs.Workspace.Copies
import SpecScribe.Proofs.Workspace.Counting
import SpecScribe.Proofs.Workspace.Filtering
import SpecScribe.Proofs.Workspace.Marks
import SpecScribe.Proofs.Workspace.Normal
import SpecScribe.Proofs.Workspace.Places
import SpecScribe.Proofs.Workspace.Pruning
import SpecScribe.Proofs.Workspace.Reading
import SpecScribe.Proofs.Workspace.Relocation
import SpecScribe.Proofs.Workspace.Scan
import SpecScribe.Proofs.Workspace.Standard
import SpecScribe.Proofs.Workspace.Walk
import SpecScribe.Proofs.Workspace.Writing
import SpecScribe.Schema.FieldError
import SpecScribe.Schema.Rule
import SpecScribe.Settings.Config
import SpecScribe.Settings.Environment
import SpecScribe.Settings.Logging
import SpecScribe.Settings.Performance
import SpecScribe.Settings.Table
import SpecScribe.Settings.Validation
import SpecScribe.Shell.Arguments
import SpecScribe.Shell.Basic
import SpecScribe.Syntax.Dialect
import SpecScribe.Syntax.Extraction
import SpecScribe.Syntax.Grammar
import SpecScribe.Syntax.Node
import SpecScribe.Syntax.Parsers
import SpecScribe.Syntax.Pattern
import SpecScribe.Text.Blank
import SpecScribe.Text.Case
import SpecScribe.Text.Printable
import SpecScribe.Text.Quoted
import SpecScribe.Text.Scan
import SpecScribe.Text.Search
import SpecScribe.Text.Utf8
import SpecScribe.Text.Word
import SpecScribe.Workspace.Detection
import SpecScribe.Workspace.Filter
import SpecScribe.Workspace.Glob
import SpecScribe.Workspace.Path
import SpecScribe.Workspace.Reading
import SpecScribe.Workspace.Scanner
import SpecScribe.Workspace.Store
import SpecScribe.Workspace.Walk
