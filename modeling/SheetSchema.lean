import SheetSchema.Cell.Basic
import SheetSchema.Cell.Coercion
import SheetSchema.Cell.Number
import SheetSchema.CommandLine.Arguments
import SheetSchema.CommandLine.Report
import SheetSchema.CommandLine.Run
import SheetSchema.Compilation
import SheetSchema.Documents
import SheetSchema.Error
import SheetSchema.Extraction
import SheetSchema.Files.Basic
import SheetSchema.Files.Disk
import SheetSchema.Files.Path
import SheetSchema.Hierarchy.Discovery
import SheetSchema.Hierarchy.Order
import SheetSchema.Hierarchy.Passes
import SheetSchema.Hierarchy.Topological
import SheetSchema.Json.Basic
import SheetSchema.Json.Decode
import SheetSchema.Json.Printer
import SheetSchema.Json.Reader
import SheetSchema.Json.Sorted
import SheetSchema.Json.Token
import SheetSchema.Main
import SheetSchema.Manifest
import SheetSchema.Names
import SheetSchema.Number.Binary64
import SheetSchema.Number.Decimal
import SheetSchema.Number.Power
import SheetSchema.OrderedMap
import SheetSchema.Partials
import SheetSchema.Permissions
import SheetSchema.Proofs.Blocks
import SheetSchema.Proofs.Cell.Document
import SheetSchema.Proofs.Cell.Integer
import SheetSchema.Proofs.Cell.Number
import SheetSchema.Proofs.CommandLine.Effects
import SheetSchema.Proofs.CommandLine.History
import SheetSchema.Proofs.Compilation.Columns
import SheetSchema.Proofs.Compilation.Documents
import SheetSchema.Proofs.Compilation.Emission
import SheetSchema.Proofs.Compilation.Faults
import SheetSchema.Proofs.Compilation.Imports
import SheetSchema.Proofs.Compilation.Independence
import SheetSchema.Proofs.Compilation.Order
import SheetSchema.Proofs.Compilation.Restorable
import SheetSchema.Proofs.Compilation.Routes
import SheetSchema.Proofs.Compilation.Rows
import SheetSchema.Proofs.Compilation.Sources
import SheetSchema.Proofs.Compilation.Steps
import SheetSchema.Proofs.Extraction.Identifiers
import SheetSchema.Proofs.Extraction.Models
import SheetSchema.Proofs.Extraction.RowNumbers
import SheetSchema.Proofs.Extraction.Saved
import SheetSchema.Proofs.Extraction.Sections
import SheetSchema.Proofs.Extraction.Skipped
import SheetSchema.Proofs.Fields
import SheetSchema.Proofs.Files.AllOrNothing
import SheetSchema.Proofs.Files.Contents
import SheetSchema.Proofs.Files.Destination
import SheetSchema.Proofs.Files.Disk
import SheetSchema.Proofs.Files.Documents
import SheetSchema.Proofs.Files.Path
import SheetSchema.Proofs.Files.Reading
import SheetSchema.Proofs.Files.Steps
import SheetSchema.Proofs.Files.Undo
import SheetSchema.Proofs.Hierarchy.Connections
import SheetSchema.Proofs.Hierarchy.Countdown
import SheetSchema.Proofs.Hierarchy.Edges
import SheetSchema.Proofs.Hierarchy.Events
import SheetSchema.Proofs.Hierarchy.Listing
import SheetSchema.Proofs.Hierarchy.Parents
import SheetSchema.Proofs.Hierarchy.Passes
import SheetSchema.Proofs.Hierarchy.Stages
import SheetSchema.Proofs.Hierarchy.Topological
import SheetSchema.Proofs.Imports
import SheetSchema.Proofs.Json.Decode
import SheetSchema.Proofs.Json.Reading
import SheetSchema.Proofs.Manifest.Agreement
import SheetSchema.Proofs.Manifest.Check
import SheetSchema.Proofs.Manifest.Coverage
import SheetSchema.Proofs.Manifest.Document
import SheetSchema.Proofs.Manifest.Entries
import SheetSchema.Proofs.ModelNames
import SheetSchema.Proofs.Number.Digits
import SheetSchema.Proofs.Number.Numeral
import SheetSchema.Proofs.Number.Rounding
import SheetSchema.Proofs.Number.Shortest
import SheetSchema.Proofs.Number.Text
import SheetSchema.Proofs.OrderedMap
import SheetSchema.Proofs.Packages
import SheetSchema.Proofs.Partials.Flattening
import SheetSchema.Proofs.Partials.Reach
import SheetSchema.Proofs.Partials.Stack
import SheetSchema.Proofs.Permissions
import SheetSchema.Proofs.Permissions.Merging
import SheetSchema.Proofs.Relations.Expansion
import SheetSchema.Proofs.Relations.Faults
import SheetSchema.Proofs.Relations.Outputs
import SheetSchema.Proofs.Relations.Targets
import SheetSchema.Proofs.Routes
import SheetSchema.Proofs.Runs
import SheetSchema.Proofs.Schema.Cells
import SheetSchema.Proofs.Schema.Document
import SheetSchema.Proofs.Schema.TypedDocument
import SheetSchema.Proofs.Settings.Normalization
import SheetSchema.Proofs.Text.SnakeCase
import SheetSchema.Proofs.Text.Trimming
import SheetSchema.Proofs.Typing.Faults
import SheetSchema.Proofs.Typing.FirstFault
import SheetSchema.Proofs.Typing.Resolution
import SheetSchema.Proofs.Typing.Rows
import SheetSchema.Proofs.Typing.Schema
import SheetSchema.Proofs.Typing.Width
import SheetSchema.Proofs.Workbook.Cells
import SheetSchema.Relations
import SheetSchema.Routes
import SheetSchema.Schema.Action
import SheetSchema.Schema.Basic
import SheetSchema.Schema.Document
import SheetSchema.Settings.Compiler
import SheetSchema.Settings.Project
import SheetSchema.Storage
import SheetSchema.Text.Blank
import SheetSchema.Text.Identifier
import SheetSchema.Text.Letter
import SheetSchema.Text.LowerCase
import SheetSchema.Text.SnakeCase
import SheetSchema.Typing.Registry
import SheetSchema.Typing.Resolution
import SheetSchema.Typing.Width
import SheetSchema.Workbook.Basic
import SheetSchema.Workbook.Spreadsheet
import SheetSchema.Workbook.Yaml
import SheetSchema.Yaml.Decode
import SheetSchema.Yaml.Node
import SheetSchema.Yaml.Plain
import SheetSchema.Yaml.Printer
import SheetSchema.Yaml.Scalar
import SheetSchema.Yaml.Text
import SheetSchema.Yaml.Token
