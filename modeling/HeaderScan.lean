import HeaderScan.CharClass
import HeaderScan.Command
import HeaderScan.CommandLine
import HeaderScan.Comments
import HeaderScan.Condition.Basic
import HeaderScan.Condition.Kleene
import HeaderScan.Condition.Text
import HeaderScan.Conditional
import HeaderScan.Cursor
import HeaderScan.Diagnostic.Basic
import HeaderScan.Diagnostic.Code
import HeaderScan.Diagnostic.Log
import HeaderScan.Diagnostic.Terminal
import HeaderScan.Directive.Exclusion
import HeaderScan.Directive.Handler
import HeaderScan.Directive.Text
import HeaderScan.FileTree
import HeaderScan.HiddenContent
import HeaderScan.Lexeme.Basic
import HeaderScan.Lexeme.Numeral
import HeaderScan.Line
import HeaderScan.Main
import HeaderScan.Operator
import HeaderScan.Options
import HeaderScan.Proofs.Lexeme.Grammar
import HeaderScan.Proofs.Lexeme.Numeral
import HeaderScan.Proofs.Lexeme.Quoted
import HeaderScan.Proofs.Text.Longest
import HeaderScan.RawText
import HeaderScan.RawToken
import HeaderScan.Reader.Basic
import HeaderScan.Reader.Drain
import HeaderScan.Report
import HeaderScan.ScanError
import HeaderScan.Scanner.Basic
import HeaderScan.Scanner.Effort
import HeaderScan.Session.Basic
import HeaderScan.Session.Observation
import HeaderScan.Session.Script
import HeaderScan.Span
import HeaderScan.SymbolTable
import HeaderScan.Text.Blank
import HeaderScan.Text.CodeRange
import HeaderScan.Text.Front
import HeaderScan.Text.Letter
import HeaderScan.Text.NumberSign
import HeaderScan.Text.Utf8
import HeaderScan.Token
import HeaderScan.Trivia
import HeaderScan.Proofs.Tiling
import HeaderScan.Proofs.Lexeme.WordEnd
import HeaderScan.Proofs.Handler.Projection
import HeaderScan.Proofs.Handler.Journal
import HeaderScan.Proofs.Handler.Commands
import HeaderScan.Proofs.Reader.Flow
import HeaderScan.Proofs.Conditional.Interpreter
import HeaderScan.Proofs.Reader.Place
import HeaderScan.Proofs.Reader.Course
import HeaderScan.Proofs.Cursor.Forward
import HeaderScan.Proofs.Comments.Origin
import HeaderScan.Proofs.Reader.Forward
import HeaderScan.Proofs.Reader.Requests
import HeaderScan.Proofs.Reader.Neutrality
import HeaderScan.Proofs.Reader.Location
import HeaderScan.Proofs.Reader.Memory
import HeaderScan.Proofs.Reader.Restoring
import HeaderScan.Proofs.Reader.Safety
import HeaderScan.Proofs.Report.Order
import HeaderScan.Proofs.Report.Schedule
import HeaderScan.Proofs.Condition.Cutting
import HeaderScan.Proofs.Condition.Expression
import HeaderScan.Proofs.Condition.Evaluation
import HeaderScan.Proofs.Condition.Piece
import HeaderScan.Proofs.Condition.Comparison
import HeaderScan.Proofs.Comments.Addition
import HeaderScan.Proofs.Reader.Approach
import HeaderScan.Proofs.Comments.Sequence
import HeaderScan.Proofs.Reader.Collection
import HeaderScan.Proofs.Printing
import HeaderScan.Proofs.Reader.Attachment
import HeaderScan.Proofs.Reader.LookingAhead
import HeaderScan.Proofs.Reader.Steps
import HeaderScan.Proofs.Reader.Moments
import HeaderScan.Proofs.Reader.Disabling
import HeaderScan.Proofs.Reader.Work
import HeaderScan.Proofs.Reader.Progress
import HeaderScan.Proofs.Comments.Grouping
import HeaderScan.Proofs.Conditional.Searching
import HeaderScan.Proofs.Condition.Learning
import HeaderScan.Proofs.HiddenContent.Window
import HeaderScan.Proofs.Conditional.Macros
import HeaderScan.Proofs.Report.Sequence
import HeaderScan.Proofs.RawText
import HeaderScan.Proofs.Line
import HeaderScan.Proofs.Reader.History
import HeaderScan.Proofs.Reader.Recording
import HeaderScan.Proofs.Directive.Stripping
import HeaderScan.Proofs.Directive.LogicalLine
import HeaderScan.Proofs.Conditional.Symbols
import HeaderScan.Proofs.Text.Encoding
import HeaderScan.Proofs.Cursor.Bytewise
import HeaderScan.Proofs.Cursor.Moves
