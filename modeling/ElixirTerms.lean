import ElixirTerms.Command.Arguments
import ElixirTerms.Command.Folder
import ElixirTerms.Command.Host
import ElixirTerms.Command.Path
import ElixirTerms.Command.Run
import ElixirTerms.Command.Session
import ElixirTerms.Command.Usage
import ElixirTerms.Cursor.Basic
import ElixirTerms.Cursor.Call
import ElixirTerms.Graph.Basic
import ElixirTerms.Graph.Dot
import ElixirTerms.Graph.Label
import ElixirTerms.Json.Basic
import ElixirTerms.Json.Encode
import ElixirTerms.Main
import ElixirTerms.Node.Basic
import ElixirTerms.Node.Children
import ElixirTerms.Node.Json
import ElixirTerms.Node.Outline
import ElixirTerms.Node.Source
import ElixirTerms.Position
import ElixirTerms.Program
import ElixirTerms.Proofs.Alone
import ElixirTerms.Proofs.Alphabet
import ElixirTerms.Proofs.Bearings
import ElixirTerms.Proofs.Boundary.Append
import ElixirTerms.Proofs.Boundary.Cut
import ElixirTerms.Proofs.Boundary.Exchange
import ElixirTerms.Proofs.Boundary.Quotes
import ElixirTerms.Proofs.Canonical.Apart
import ElixirTerms.Proofs.Canonical.Idempotent
import ElixirTerms.Proofs.Canonical.Keys
import ElixirTerms.Proofs.Canonical.Keyworded
import ElixirTerms.Proofs.Canonical.Placed
import ElixirTerms.Proofs.Canonical.Recovered
import ElixirTerms.Proofs.Canonical.RoundTrip
import ElixirTerms.Proofs.Canonical.Shapes
import ElixirTerms.Proofs.Canonical.Source
import ElixirTerms.Proofs.Canonical.Tokens
import ElixirTerms.Proofs.Canonical.Written
import ElixirTerms.Proofs.CheckMarks
import ElixirTerms.Proofs.Depth
import ElixirTerms.Proofs.Draining
import ElixirTerms.Proofs.Exported.Decoder
import ElixirTerms.Proofs.Exported.Fields
import ElixirTerms.Proofs.Exported.Program
import ElixirTerms.Proofs.Failure.Blame
import ElixirTerms.Proofs.Failure.Documented
import ElixirTerms.Proofs.Failure.Unfinished
import ElixirTerms.Proofs.Forward
import ElixirTerms.Proofs.Gist
import ElixirTerms.Proofs.Grammar.Balance
import ElixirTerms.Proofs.Grammar.Basic
import ElixirTerms.Proofs.Grammar.Brackets
import ElixirTerms.Proofs.Grammar.Complete
import ElixirTerms.Proofs.Grammar.Exact
import ElixirTerms.Proofs.Grammar.Nesting
import ElixirTerms.Proofs.Grammar.Rows
import ElixirTerms.Proofs.Grammar.Segments
import ElixirTerms.Proofs.Grammar.Sound
import ElixirTerms.Proofs.Incomplete.Expression
import ElixirTerms.Proofs.Incomplete.Program
import ElixirTerms.Proofs.Incomplete.Row
import ElixirTerms.Proofs.Invariant
import ElixirTerms.Proofs.Lines
import ElixirTerms.Proofs.Literals
import ElixirTerms.Proofs.Lookahead
import ElixirTerms.Proofs.Lossless
import ElixirTerms.Proofs.Maximal
import ElixirTerms.Proofs.Positions
import ElixirTerms.Proofs.Recovery.Brackets
import ElixirTerms.Proofs.Recovery.FirstError
import ElixirTerms.Proofs.Recovery.Rounds
import ElixirTerms.Proofs.Reporting
import ElixirTerms.Proofs.Splitting
import ElixirTerms.Proofs.Start
import ElixirTerms.Proofs.Success
import ElixirTerms.Proofs.Tree.Depiction
import ElixirTerms.Proofs.Tree.Drawing
import ElixirTerms.Proofs.Tree.Fences
import ElixirTerms.Proofs.Tree.Labels
import ElixirTerms.Proofs.Tree.Lexemes
import ElixirTerms.Proofs.Tree.Newlines
import ElixirTerms.Proofs.Tree.Outline
import ElixirTerms.Proofs.Tree.Places
import ElixirTerms.Proofs.Tree.Size
import ElixirTerms.Proofs.Trivia
import ElixirTerms.Proofs.Unplaced
import ElixirTerms.Proofs.Unread
import ElixirTerms.Reading.Basic
import ElixirTerms.Reading.Error
import ElixirTerms.Reading.Expression
import ElixirTerms.Reading.Expression.Progress
import ElixirTerms.Reading.Segment
import ElixirTerms.Report
import ElixirTerms.Scanner.Basic
import ElixirTerms.Scanner.Call
import ElixirTerms.SignedIndex
import ElixirTerms.Text.Basic
import ElixirTerms.Text.Lines
import ElixirTerms.Text.Quoted
import ElixirTerms.Text.Utf8
import ElixirTerms.Token.Alphabet
import ElixirTerms.Token.Basic
import ElixirTerms.Token.Extent
import ElixirTerms.Token.Extent.Bounds
import ElixirTerms.Token.Json
import ElixirTerms.Token.Lex
import ElixirTerms.Token.Listing
import ElixirTerms.Unicode.Alphanumeric
import ElixirTerms.Unicode.Blank
import ElixirTerms.Unicode.CaseIgnorable
import ElixirTerms.Unicode.Cased
import ElixirTerms.Unicode.Decimal
import ElixirTerms.Unicode.Lower
import ElixirTerms.Unicode.Printable
import ElixirTerms.Unicode.Ranges
import ElixirTerms.Unicode.Upper
