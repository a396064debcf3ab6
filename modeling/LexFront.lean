import LexFront.Config.Basic
import LexFront.Config.Document
import LexFront.Config.Error
import LexFront.Config.Storage
import LexFront.Cursor
import LexFront.Cursor.Script
import LexFront.Cursor.View
import LexFront.Diagnostic.Basic
import LexFront.Diagnostic.Code
import LexFront.Diagnostic.Handler
import LexFront.FileStore
import LexFront.Log
import LexFront.Proofs.Lexeme
import LexFront.Proofs.Lexeme.Read
import LexFront.Proofs.Lexeme.Symbol
import LexFront.Proofs.Text.Extent
import LexFront.Scanner.Basic
import LexFront.Scanner.Progress
import LexFront.Scanner.Run
import LexFront.Scanner.Session
import LexFront.Span
import LexFront.Text.Bytes
import LexFront.Text.CharClass
import LexFront.Text.Concealed
import LexFront.Text.Letter
import LexFront.Text.Lines
import LexFront.Text.Quoted
import LexFront.Text.RangeTable
import LexFront.Token.Basic
import LexFront.Token.Keyword
import LexFront.Token.Kind
import LexFront.Toml.DateTime
import LexFront.Toml.Document
import LexFront.Toml.Lexical
import LexFront.Toml.Number
import LexFront.Toml.Reader
import LexFront.Toml.StringLiteral
import LexFront.Toml.Table
import LexFront.Toml.Value
import LexFront.Proofs.Lexeme.Laws
import LexFront.Proofs.Scanner.Reading
import LexFront.Proofs.Scanner.Tile
import LexFront.Proofs.Scanner.Reachable
import LexFront.Proofs.Scanner.Lossless
import LexFront.Proofs.Lexeme.Written
import LexFront.Proofs.Scanner.RoundTrip
import LexFront.Proofs.Scanner.Reports
import LexFront.Proofs.Lexeme.Lookahead
import LexFront.Proofs.Scanner.Outcome
import LexFront.Proofs.Scanner.Suffix
import LexFront.Proofs.Scanner.Lookahead
import LexFront.Proofs.Scanner.Fraction
import LexFront.Proofs.Session.Isolation
import LexFront.Proofs.Scanner.Newline
import LexFront.Proofs.Scanner.Log
import LexFront.Proofs.Session.Reporting
import LexFront.Proofs.Session.Stream
import LexFront.Proofs.Text.Offset
import LexFront.Proofs.Text.Lines
import LexFront.Proofs.Cursor.Accepted
import LexFront.Proofs.Cursor.Reach
import LexFront.Proofs.Cursor.Loop
import LexFront.Proofs.Scanner.Termination
import LexFront.Proofs.Session.Safety
import LexFront.Proofs.Lexeme.Interior
import LexFront.Proofs.Scanner.Interior
import LexFront.Proofs.Diagnostic.Shown
import LexFront.Proofs.Session.Snippet
import LexFront.Proofs.Span
import LexFront.Proofs.Cursor.Held
import LexFront.Proofs.Diagnostic.Report
import LexFront.Proofs.Toml.Distinct
import LexFront.Proofs.Config.Meaning
import LexFront.Proofs.Config.Alike
import LexFront.Proofs.Diagnostic.Code
import LexFront.Proofs.Text.Quoted
import LexFront.Proofs.Token.Display
import LexFront.Proofs.Cursor.Representation
import LexFront.Proofs.Toml.Layout
import LexFront.Proofs.Toml.Plain
import LexFront.Proofs.Config.Layout
import LexFront.Proofs.Cursor.Maximal
