import ExtTypes.Action
import ExtTypes.CommandLine.Arguments
import ExtTypes.CommandLine.Run
import ExtTypes.Decimal.Double
import ExtTypes.Decimal.Notation
import ExtTypes.Decimal.Numeral
import ExtTypes.Decimal.Shortest
import ExtTypes.Declaration.Frame
import ExtTypes.Declaration.Globals
import ExtTypes.Declaration.Imports
import ExtTypes.Declaration.Lint
import ExtTypes.Declaration.Messages
import ExtTypes.Declaration.Paths
import ExtTypes.Declaration.Reference
import ExtTypes.Declaration.Tsconfig
import ExtTypes.Entry
import ExtTypes.Entrypoint
import ExtTypes.Failure
import ExtTypes.FileSystem.Basic
import ExtTypes.FileSystem.Disk
import ExtTypes.FileSystem.Tree
import ExtTypes.FileSystem.Walk
import ExtTypes.Generate
import ExtTypes.Hook
import ExtTypes.Import.Basic
import ExtTypes.Import.Export
import ExtTypes.Import.Scanner
import ExtTypes.Json.Basic
import ExtTypes.Json.Printer
import ExtTypes.Json.Reader
import ExtTypes.Log
import ExtTypes.Main
import ExtTypes.Message
import ExtTypes.Path.Basic
import ExtTypes.Path.Location
import ExtTypes.Settings.Basic
import ExtTypes.Settings.Load
import ExtTypes.Settings.Resolve
import ExtTypes.Text.Blank
import ExtTypes.Text.CharRange
import ExtTypes.Text.DecimalDigit
import ExtTypes.Text.Fields
import ExtTypes.Text.Lowercase
import ExtTypes.Text.Newline
import ExtTypes.Text.Printable
import ExtTypes.Text.Quoted
import ExtTypes.Text.Utf8
import ExtTypes.Text.Word
import ExtTypes.Value.Basic
import ExtTypes.Value.Calendar
import ExtTypes.Value.Scalar
import ExtTypes.Writer
import ExtTypes.Yaml.Cursor
import ExtTypes.Yaml.Document
import ExtTypes.Yaml.Node
import ExtTypes.Yaml.Scalar
import ExtTypes.Yaml.Tag
import ExtTypes.Yaml.Token.Basic
import ExtTypes.Yaml.Token.Block
import ExtTypes.Yaml.Token.Lexer
import ExtTypes.Yaml.Token.Plain
import ExtTypes.Yaml.Token.Quoted
import ExtTypes.Yaml.Value
import ExtTypes.Proofs.FileSystem.Change
import ExtTypes.Proofs.Path.RoundTrip
import ExtTypes.Proofs.Action
import ExtTypes.Proofs.FileSystem.Listing
import ExtTypes.Proofs.FileSystem.Search
import ExtTypes.Proofs.Generate.Again
import ExtTypes.Proofs.Generate.Stale
import ExtTypes.Proofs.Generate.Untouched
import ExtTypes.Proofs.Import.Names
import ExtTypes.Proofs.Import.Statements
import ExtTypes.Proofs.Generate.Targets
import ExtTypes.Proofs.FileSystem.Refusal
import ExtTypes.Proofs.Writer.Order
import ExtTypes.Import.Session
import ExtTypes.Proofs.Import.Declarable
import ExtTypes.Proofs.Import.History
import ExtTypes.Proofs.Decimal.Numeral
import ExtTypes.Proofs.Settings.Obstacle
import ExtTypes.Proofs.Settings.Configured
import ExtTypes.Proofs.Json.Fields
import ExtTypes.Proofs.Json.RoundTrip
import ExtTypes.Proofs.Settings.WellFormed
import ExtTypes.Proofs.Path.Relative
import ExtTypes.Proofs.FileSystem.Lookup
import ExtTypes.Proofs.Declaration.Reference
import ExtTypes.Proofs.Declaration.Tsconfig
import ExtTypes.Proofs.Declaration.Paths
import ExtTypes.Proofs.Message.Walk
import ExtTypes.Proofs.Message.Group
import ExtTypes.Proofs.Declaration.Messages
import ExtTypes.Proofs.Hook
import ExtTypes.Proofs.Path.Shortest
import ExtTypes.Proofs.Declaration.Lint
import ExtTypes.Proofs.Writer.Pool
import ExtTypes.Proofs.Declaration.Canonical
import ExtTypes.Proofs.FileSystem.Same
import ExtTypes.Proofs.FileSystem.Source
import ExtTypes.Proofs.Entrypoint
import ExtTypes.Proofs.Import.Scan
import ExtTypes.Proofs.Import.Shadow
import ExtTypes.Proofs.Declaration.Specifier
import ExtTypes.Proofs.FileSystem.Public
import ExtTypes.Proofs.Settings.Root
import ExtTypes.Proofs.Import.Phrase
import ExtTypes.Proofs.Import.Quiet
import ExtTypes.Proofs.Import.Laid
import ExtTypes.Proofs.Import.Layout
import ExtTypes.Proofs.Log
