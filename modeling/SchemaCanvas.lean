import SchemaCanvas.CommandLine.Arguments
import SchemaCanvas.CommandLine.Run
import SchemaCanvas.Distinct
import SchemaCanvas.File.Loaded
import SchemaCanvas.File.Refreshed
import SchemaCanvas.Layout.Block
import SchemaCanvas.Layout.Diagram
import SchemaCanvas.Layout.Error
import SchemaCanvas.Layout.Line
import SchemaCanvas.Layout.Name
import SchemaCanvas.Layout.Reader
import SchemaCanvas.Layout.Writer
import SchemaCanvas.Main
import SchemaCanvas.Number.Basic
import SchemaCanvas.Number.Binary64
import SchemaCanvas.Number.Decimal
import SchemaCanvas.Number.Numeral
import SchemaCanvas.Number.Reader
import SchemaCanvas.Number.Rounding
import SchemaCanvas.Number.Trigonometry
import SchemaCanvas.Picture.Basic
import SchemaCanvas.Picture.Refresh
import SchemaCanvas.Picture.Resolution
import SchemaCanvas.Picture.Selection
import SchemaCanvas.Placement.Circular
import SchemaCanvas.Placement.Generator
import SchemaCanvas.Placement.Scatter
import SchemaCanvas.Placement.Strategy
import SchemaCanvas.Proofs.CommandLine.LaidOut
import SchemaCanvas.Proofs.CommandLine.Layout
import SchemaCanvas.Proofs.File.Default
import SchemaCanvas.Proofs.File.Loaded
import SchemaCanvas.Proofs.File.Reopened
import SchemaCanvas.Proofs.Layout.Hidden
import SchemaCanvas.Proofs.Layout.Inserted
import SchemaCanvas.Proofs.Layout.Located
import SchemaCanvas.Proofs.Layout.NameForm
import SchemaCanvas.Proofs.Layout.Names
import SchemaCanvas.Proofs.Layout.Reading
import SchemaCanvas.Proofs.Layout.Reread
import SchemaCanvas.Proofs.Layout.Resaved
import SchemaCanvas.Proofs.Layout.Rewritten
import SchemaCanvas.Proofs.Layout.RoundTrip
import SchemaCanvas.Proofs.Layout.Rounded
import SchemaCanvas.Proofs.Layout.Saving
import SchemaCanvas.Proofs.Layout.Spliced
import SchemaCanvas.Proofs.Layout.Warned
import SchemaCanvas.Proofs.Layout.Writable
import SchemaCanvas.Proofs.Layout.Written
import SchemaCanvas.Proofs.Number.Rounded
import SchemaCanvas.Proofs.Picture.Agreeing
import SchemaCanvas.Proofs.Picture.Avoiding
import SchemaCanvas.Proofs.Picture.Committed
import SchemaCanvas.Proofs.Picture.Filled
import SchemaCanvas.Proofs.Picture.Fitting
import SchemaCanvas.Proofs.Picture.Materialized
import SchemaCanvas.Proofs.Picture.Order
import SchemaCanvas.Proofs.Picture.Placing
import SchemaCanvas.Proofs.Picture.Prepared
import SchemaCanvas.Proofs.Picture.Pruned
import SchemaCanvas.Proofs.Picture.Rearranged
import SchemaCanvas.Proofs.Picture.Refreshed
import SchemaCanvas.Proofs.Picture.Reread
import SchemaCanvas.Proofs.Picture.Settled
import SchemaCanvas.Proofs.Picture.Shown
import SchemaCanvas.Proofs.Picture.Stateless
import SchemaCanvas.Proofs.Picture.Staying
import SchemaCanvas.Proofs.Picture.Stored
import SchemaCanvas.Proofs.Placement.Circular
import SchemaCanvas.Proofs.Registry
import SchemaCanvas.Proofs.Schema.Alike
import SchemaCanvas.Proofs.Schema.Closed
import SchemaCanvas.Proofs.Schema.Defined
import SchemaCanvas.Proofs.Schema.ForeignKeys
import SchemaCanvas.Proofs.Schema.Keys
import SchemaCanvas.Proofs.Schema.LetterCase
import SchemaCanvas.Proofs.Schema.Reordered
import SchemaCanvas.Proofs.Schema.Script
import SchemaCanvas.Proofs.Sequence
import SchemaCanvas.Proofs.Sql.Alike
import SchemaCanvas.Proofs.Sql.Comment
import SchemaCanvas.Proofs.Sql.Cursor
import SchemaCanvas.Proofs.Sql.Element
import SchemaCanvas.Proofs.Sql.Halting
import SchemaCanvas.Proofs.Sql.Pieces
import SchemaCanvas.Proofs.Sql.Quoting
import SchemaCanvas.Proofs.Sql.Rounds
import SchemaCanvas.Proofs.Sql.Semicolon
import SchemaCanvas.Proofs.Sql.Tiled
import SchemaCanvas.Proofs.Sync.Answered
import SchemaCanvas.Proofs.Sync.Clean
import SchemaCanvas.Proofs.Sync.Drag
import SchemaCanvas.Proofs.Sync.Failure
import SchemaCanvas.Proofs.Sync.Fitting
import SchemaCanvas.Proofs.Sync.Hosted
import SchemaCanvas.Proofs.Sync.Outcome
import SchemaCanvas.Proofs.Sync.Replaced
import SchemaCanvas.Proofs.Sync.Retried
import SchemaCanvas.Proofs.Sync.Run
import SchemaCanvas.Proofs.Sync.SavedText
import SchemaCanvas.Proofs.Sync.Superseded
import SchemaCanvas.Proofs.Sync.Unmarked
import SchemaCanvas.Proofs.Sync.Views
import SchemaCanvas.Proofs.Sync.Waiting
import SchemaCanvas.Proofs.Text.Cut
import SchemaCanvas.Proofs.Text.LineNumber
import SchemaCanvas.Proofs.Text.Segments
import SchemaCanvas.Random.MersenneTwister
import SchemaCanvas.Registry
import SchemaCanvas.Report.Json
import SchemaCanvas.Report.Table
import SchemaCanvas.Schema.Basic
import SchemaCanvas.Schema.Build
import SchemaCanvas.Schema.Resolution
import SchemaCanvas.Settings.Basic
import SchemaCanvas.Settings.Search
import SchemaCanvas.Settings.Value
import SchemaCanvas.Sql.Column
import SchemaCanvas.Sql.Cursor
import SchemaCanvas.Sql.Identifier
import SchemaCanvas.Sql.Lexeme
import SchemaCanvas.Sql.Parser
import SchemaCanvas.Sql.Statement
import SchemaCanvas.Sql.Statement.Parser
import SchemaCanvas.Sql.SyntaxError
import SchemaCanvas.Sql.Token
import SchemaCanvas.Sync.Host
import SchemaCanvas.Sync.Session
import SchemaCanvas.Terminal.Colour
import SchemaCanvas.Terminal.Markup
import SchemaCanvas.Terminal.Pictograph
import SchemaCanvas.Terminal.Style
import SchemaCanvas.Terminal.Wrap
import SchemaCanvas.Text.Blank
import SchemaCanvas.Text.Digit
import SchemaCanvas.Text.LetterCase
import SchemaCanvas.Text.Letters
import SchemaCanvas.Text.Lines
import SchemaCanvas.Text.Literal
import SchemaCanvas.Text.Printable
import SchemaCanvas.Text.Quoted
import SchemaCanvas.Text.Range
import SchemaCanvas.Text.Search
import SchemaCanvas.Text.Utf8
import SchemaCanvas.Text.Width
import SchemaCanvas.Text.Word
import SchemaCanvas.Toml.Document
import SchemaCanvas.Toml.Reader
import SchemaCanvas.Toml.Text
import SchemaCanvas.Warning
