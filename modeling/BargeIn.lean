import BargeIn.Decision
import BargeIn.Delivery
import BargeIn.Failure
import BargeIn.Folder
import BargeIn.Json.Codec
import BargeIn.Json.Printer
import BargeIn.Json.Reader
import BargeIn.Json.Scanner
import BargeIn.Json.Skip
import BargeIn.Json.Value
import BargeIn.Listing
import BargeIn.Main
import BargeIn.Number.Binary
import BargeIn.Number.Decimal
import BargeIn.Number.Shortest
import BargeIn.Proofs.Decision.Stricter
import BargeIn.Proofs.Decision.Table
import BargeIn.Proofs.Folder.Write
import BargeIn.Proofs.Json.DecimalText
import BargeIn.Proofs.Json.DoubleOf
import BargeIn.Proofs.Json.Layout
import BargeIn.Proofs.Json.Numbers
import BargeIn.Proofs.Json.ReadBack
import BargeIn.Proofs.Json.RoundTrip
import BargeIn.Proofs.Json.Strings
import BargeIn.Proofs.Number.HalfWay
import BargeIn.Proofs.Number.NearMiss
import BargeIn.Proofs.Number.Order
import BargeIn.Proofs.Number.Rounding
import BargeIn.Proofs.Number.Shortest
import BargeIn.Proofs.Replay.Channel
import BargeIn.Proofs.Replay.EveryLine
import BargeIn.Proofs.Replay.FirstBadLine
import BargeIn.Proofs.Replay.Lines
import BargeIn.Proofs.Session.Answer
import BargeIn.Proofs.Session.Installation
import BargeIn.Proofs.Session.Recognition
import BargeIn.Proofs.Session.Restart
import BargeIn.Proofs.Settings.FileText
import BargeIn.Proofs.Settings.Normalize
import BargeIn.Proofs.Settings.Saved
import BargeIn.Proofs.Text.Piece
import BargeIn.Proofs.Text.Retokenize
import BargeIn.Proofs.Unicode.LowerCase
import BargeIn.Proofs.Vocabulary.Hits
import BargeIn.Proofs.Vocabulary.Listing
import BargeIn.Proofs.Vocabulary.Occurrence
import BargeIn.Replay.Channel
import BargeIn.Replay.CommandLine
import BargeIn.Replay.Entry
import BargeIn.Replay.Log
import BargeIn.Session
import BargeIn.Settings
import BargeIn.Settings.File
import BargeIn.Text.LetterCase
import BargeIn.Text.Quoted
import BargeIn.Text.Token
import BargeIn.Unicode.Alphanumeric
import BargeIn.Unicode.Cased
import BargeIn.Unicode.Interval
import BargeIn.Unicode.Lowercase
import BargeIn.Unicode.Unprintable
import BargeIn.Unicode.WhiteSpace
import BargeIn.Utterance
import BargeIn.Vocabulary
import BargeIn.Proofs.Session.Jobs
import BargeIn.Proofs.Session.Delivery
import BargeIn.Proofs.Session.Tally
import BargeIn.Proofs.Session.LastWrites
import BargeIn.Proofs.Decision.Line
import BargeIn.Proofs.Session.Line
import BargeIn.Proofs.Text.Grammar
import BargeIn.Proofs.Session.Overrides
import BargeIn.Proofs.Number.Monotone
import BargeIn.Proofs.Decision.Mean
import BargeIn.Proofs.Decision.Grouping
import BargeIn.Proofs.Decision.Merging
import BargeIn.Proofs.Vocabulary.FirstPlace
import BargeIn.Proofs.Vocabulary.Marking
import BargeIn.Proofs.Decision.Alike
import BargeIn.Proofs.Decision.Record
import BargeIn.Proofs.Decision.Rising
import BargeIn.Proofs.Session.Listings
