import Splice.Command.Console
import Splice.Command.Reach
import Splice.Command.Request
import Splice.Command.Run
import Splice.Command.Words
import Splice.Document.Conversion
import Splice.Document.Node
import Splice.Document.Operation
import Splice.Document.Reference
import Splice.Fault
import Splice.File.Path
import Splice.File.Workspace
import Splice.Main
import Splice.Number.Calendar
import Splice.Number.Double
import Splice.Number.Fixed
import Splice.Number.Notation
import Splice.Number.Shortest
import Splice.Proofs.Document.Expansion
import Splice.Proofs.Document.Levels
import Splice.Proofs.Document.Nodes
import Splice.Proofs.Inversion
import Splice.Proofs.Number.Notation
import Splice.Proofs.Render.Collapse
import Splice.Proofs.Render.DebugText
import Splice.Proofs.Render.Layout
import Splice.Proofs.Render.PlainLayout
import Splice.Proofs.Render.Repetition
import Splice.Proofs.Render.Respacing
import Splice.Proofs.Render.TextLayout
import Splice.Proofs.Session.SoundDrafts
import Splice.Proofs.Template.Assembly
import Splice.Proofs.Template.Compiled
import Splice.Proofs.Template.Dedent
import Splice.Proofs.Template.Exact
import Splice.Proofs.Template.Pieces
import Splice.Proofs.Template.SoundDocuments
import Splice.Proofs.Text.Lines
import Splice.Provenance.Registry
import Splice.Provenance.Token
import Splice.Record.Clock
import Splice.Record.Level
import Splice.Record.Line
import Splice.Record.Note
import Splice.Record.Recorder
import Splice.Render.Ansi
import Splice.Render.Debug
import Splice.Render.Plain
import Splice.Render.Sheet
import Splice.Render.Spans
import Splice.Render.Walk
import Splice.Session.Drafts
import Splice.Session.Registries
import Splice.Session.Run
import Splice.Session.Step
import Splice.Settings.Environment
import Splice.Settings.Fault
import Splice.Settings.Fields
import Splice.Settings.Load
import Splice.Settings.Source
import Splice.Settings.Spacing
import Splice.Settings.Tracing
import Splice.Style.Basic
import Splice.Style.Colour
import Splice.Style.Definition
import Splice.Style.Escape
import Splice.Style.Ink
import Splice.Style.Palette
import Splice.Template.Assemble
import Splice.Template.Compile
import Splice.Template.Indent
import Splice.Template.Piece
import Splice.Template.Placeholder
import Splice.Text.Basic
import Splice.Text.Blank
import Splice.Text.Cased
import Splice.Text.Digit
import Splice.Text.Lowercase
import Splice.Text.Printable
import Splice.Text.Quoted
import Splice.Value.Basic
import Splice.Value.Json
import Splice.Value.Literal
import Splice.Value.Percent
import Splice.Yaml.Block
import Splice.Yaml.Cursor
import Splice.Yaml.Fault
import Splice.Yaml.Kind
import Splice.Yaml.Lexer
import Splice.Yaml.Load
import Splice.Yaml.Node
import Splice.Yaml.Plain
import Splice.Yaml.Quoted
import Splice.Yaml.Scalar
import Splice.Yaml.Stamp
import Splice.Yaml.Tag
import Splice.Yaml.Token
import Splice.Proofs.Render.Rereading
import Splice.Proofs.Provenance.Colours
import Splice.Proofs.Render.StyledLayout
import Splice.Proofs.Style.Shelves
import Splice.Proofs.Render.DebugStyles
import Splice.Proofs.Session.SoundShelves
import Splice.Proofs.Session.Isolation
import Splice.Proofs.FirstUse
import Splice.Proofs.Session.Colouring
import Splice.Proofs.Render.Inlining
import Splice.Proofs.Template.Reindent
import Splice.Proofs.Command.Prediction
import Splice.Proofs.Render.Legend
import Splice.Proofs.Style.Codes
import Splice.Proofs.Render.Moves
import Splice.Proofs.Render.InkLedger
import Splice.Proofs.Render.Painting
import Splice.Proofs.Session.Writing
import Splice.Proofs.Style.Screen
import Splice.Proofs.Render.Showing
import Splice.Proofs.Session.Reading
import Splice.Proofs.Session.Identities
import Splice.Proofs.Document.Strays
import Splice.Proofs.Render.Refusal
import Splice.Proofs.Render.Hanging
import Splice.Proofs.Template.Refusals
import Splice.Proofs.Record.Lines
import Splice.Proofs.Command.Reporting
import Splice.Proofs.Render.Sequencing
import Splice.Proofs.Template.BareDollars
import Splice.Proofs.Style.Selections
import Splice.Proofs.Render.Forms
import Splice.Proofs.Session.Forms
import Splice.Proofs.Render.Galleys
import Splice.Proofs.Session.Reuse
import Splice.Proofs.Style.Definitions
import Splice.Proofs.Settings.Loading
import Splice.Proofs.Settings.Numbers
import Splice.Proofs.Command.Printing
import Splice.Proofs.Settings.References
import Splice.Proofs.Record.Sources
import Splice.Proofs.Record.Histories
import Splice.Proofs.Render.Stages
import Splice.Proofs.Render.Bookkeeping
import Splice.Proofs.Borrowed
