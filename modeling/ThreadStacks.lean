import ThreadStacks.CommandLine.Arguments
import ThreadStacks.CommandLine.FileTree
import ThreadStacks.CommandLine.Options
import ThreadStacks.CommandLine.Path
import ThreadStacks.CommandLine.Program
import ThreadStacks.CommandLine.Report
import ThreadStacks.CommandLine.Snapshot
import ThreadStacks.Diagnostic
import ThreadStacks.Document.BareWord
import ThreadStacks.Document.Basic
import ThreadStacks.Document.Display
import ThreadStacks.Document.Escape
import ThreadStacks.Document.Integer
import ThreadStacks.Document.Lexeme
import ThreadStacks.Document.Parts
import ThreadStacks.Document.Printer
import ThreadStacks.Document.ReadError
import ThreadStacks.Document.Reader
import ThreadStacks.Fault
import ThreadStacks.Frame.Basic
import ThreadStacks.Group.Basic
import ThreadStacks.Group.Export
import ThreadStacks.Group.Grouping
import ThreadStacks.Group.Parallel
import ThreadStacks.Main
import ThreadStacks.Name.Argument
import ThreadStacks.Name.Generated
import ThreadStacks.Name.Markup
import ThreadStacks.Name.Predefined
import ThreadStacks.Name.Qualified
import ThreadStacks.Name.TypeName
import ThreadStacks.Number.Binary64
import ThreadStacks.Number.Shortest
import ThreadStacks.Proofs.CommandLine.Discovery
import ThreadStacks.Proofs.CommandLine.Display
import ThreadStacks.Proofs.CommandLine.Escape
import ThreadStacks.Proofs.CommandLine.Essence
import ThreadStacks.Proofs.CommandLine.Export
import ThreadStacks.Proofs.CommandLine.FileShape
import ThreadStacks.Proofs.CommandLine.FileTree
import ThreadStacks.Proofs.CommandLine.Influence
import ThreadStacks.Proofs.CommandLine.Rejection
import ThreadStacks.Proofs.CommandLine.Run
import ThreadStacks.Proofs.Document.Encoding
import ThreadStacks.Proofs.Document.Refusal
import ThreadStacks.Proofs.Frame.Joined
import ThreadStacks.Proofs.Frame.PlainSignature
import ThreadStacks.Proofs.Group.Essence
import ThreadStacks.Proofs.Group.Export
import ThreadStacks.Proofs.Group.Grouping
import ThreadStacks.Proofs.Group.Parallel
import ThreadStacks.Proofs.Group.Permutation
import ThreadStacks.Proofs.Group.RawFrames
import ThreadStacks.Proofs.Group.Reading
import ThreadStacks.Proofs.Group.StackClass
import ThreadStacks.Proofs.Group.Textual
import ThreadStacks.Proofs.Name.Argument
import ThreadStacks.Proofs.Name.Arity
import ThreadStacks.Proofs.Name.ArrayType
import ThreadStacks.Proofs.Name.BracketScan
import ThreadStacks.Proofs.Name.Characters
import ThreadStacks.Proofs.Name.ClosedType
import ThreadStacks.Proofs.Name.Ends
import ThreadStacks.Proofs.Name.Generated
import ThreadStacks.Proofs.Name.GeneratedName
import ThreadStacks.Proofs.Name.GenericType
import ThreadStacks.Proofs.Name.Idempotence
import ThreadStacks.Proofs.Name.Markup
import ThreadStacks.Proofs.Name.Normal
import ThreadStacks.Proofs.Name.Plain
import ThreadStacks.Proofs.Name.Predefined
import ThreadStacks.Proofs.Name.Qualified
import ThreadStacks.Proofs.Name.Reference
import ThreadStacks.Proofs.Name.Signature
import ThreadStacks.Proofs.Name.TypeSection
import ThreadStacks.Proofs.Name.TypeTree
import ThreadStacks.Proofs.Render.Border
import ThreadStacks.Proofs.Render.Centering
import ThreadStacks.Proofs.Render.Color
import ThreadStacks.Proofs.Render.DrawingFault
import ThreadStacks.Proofs.Render.DrawnText
import ThreadStacks.Proofs.Render.Fragment
import ThreadStacks.Proofs.Render.Limit
import ThreadStacks.Proofs.Render.Line
import ThreadStacks.Proofs.Render.Row
import ThreadStacks.Proofs.Render.Wrapping
import ThreadStacks.Proofs.Stream
import ThreadStacks.Proofs.Table
import ThreadStacks.Proofs.Text.Pattern
import ThreadStacks.Proofs.Text.Pieces
import ThreadStacks.Proofs.Text.Trim
import ThreadStacks.Proofs.Text.Words
import ThreadStacks.Proofs.Thread.Covering
import ThreadStacks.Proofs.Thread.Essence
import ThreadStacks.Proofs.Thread.FieldNames
import ThreadStacks.Proofs.Thread.Infinite
import ThreadStacks.Proofs.Thread.Pool
import ThreadStacks.Proofs.Thread.Record
import ThreadStacks.Proofs.Thread.Registry
import ThreadStacks.Proofs.Thread.Session
import ThreadStacks.Proofs.Token.Argument
import ThreadStacks.Proofs.Token.Block
import ThreadStacks.Proofs.Token.Canonical
import ThreadStacks.Proofs.Token.Iteration
import ThreadStacks.Proofs.Token.Text
import ThreadStacks.Proofs.Token.Tokenization
import ThreadStacks.Proofs.Written
import ThreadStacks.Render.Cell
import ThreadStacks.Render.Fragment
import ThreadStacks.Render.Operation
import ThreadStacks.Render.Renderer
import ThreadStacks.Render.View
import ThreadStacks.Stream
import ThreadStacks.Table
import ThreadStacks.Text.Basic
import ThreadStacks.Text.Blank
import ThreadStacks.Text.CodePoint
import ThreadStacks.Text.CodeRange
import ThreadStacks.Text.DecimalDigit
import ThreadStacks.Text.LowerCase
import ThreadStacks.Text.LowerCase.Table
import ThreadStacks.Text.Printable
import ThreadStacks.Text.Printable.Table
import ThreadStacks.Text.Quoted
import ThreadStacks.Thread.Basic
import ThreadStacks.Thread.FieldNames
import ThreadStacks.Thread.LockCount
import ThreadStacks.Thread.Pool
import ThreadStacks.Thread.Record
import ThreadStacks.Thread.Registry
import ThreadStacks.Thread.Session
import ThreadStacks.Token.Basic
import ThreadStacks.Token.Cursor
import ThreadStacks.Token.Iteration
import ThreadStacks.Written
