import CodeTwins.Client.Calls
import CodeTwins.Client.Connection
import CodeTwins.Client.Submission
import CodeTwins.Command.Line
import CodeTwins.Command.Report
import CodeTwins.Command.Run
import CodeTwins.Command.Scan
import CodeTwins.Command.Shell
import CodeTwins.Command.Switch
import CodeTwins.Config.Basic
import CodeTwins.Config.Document
import CodeTwins.Config.IgnoreFiles
import CodeTwins.Config.Layers
import CodeTwins.Config.Starter
import CodeTwins.Decimal.Double
import CodeTwins.Decimal.Fixed
import CodeTwins.Decimal.Number
import CodeTwins.Decimal.Shortest
import CodeTwins.Digest.Sha256
import CodeTwins.Element
import CodeTwins.Element.Extraction
import CodeTwins.Embedding.Chunk
import CodeTwins.Embedding.Embedder
import CodeTwins.Embedding.Pool
import CodeTwins.Embedding.Reply
import CodeTwins.Files.Path
import CodeTwins.Files.Tree
import CodeTwins.Http.Message
import CodeTwins.Http.Url
import CodeTwins.Json.Basic
import CodeTwins.Json.Reader
import CodeTwins.Json.Shape
import CodeTwins.Json.Writer
import CodeTwins.Language
import CodeTwins.LogLevel
import CodeTwins.Main
import CodeTwins.Numeral
import CodeTwins.Pattern.Error
import CodeTwins.Pattern.Expr
import CodeTwins.Pattern.Letter
import CodeTwins.Pattern.Match
import CodeTwins.Pattern.Reader
import CodeTwins.Pattern.Signature
import CodeTwins.Ranking
import CodeTwins.Scan.Excluded
import CodeTwins.Scan.Ignore
import CodeTwins.Scan.SourceFile
import CodeTwins.Scan.Walk
import CodeTwins.Scan.Wildcard
import CodeTwins.Service.Arrival
import CodeTwins.Service.Basic
import CodeTwins.Service.Failure
import CodeTwins.Service.Indexing
import CodeTwins.Service.Query
import CodeTwins.Service.Local
import CodeTwins.Service.Routes
import CodeTwins.Service.Schema
import CodeTwins.Settings
import CodeTwins.Similarity
import CodeTwins.Source.Block
import CodeTwins.Source.Comment
import CodeTwins.Store.Basic
import CodeTwins.Store.Opening
import CodeTwins.Store.Row
import CodeTwins.Store.Tables
import CodeTwins.Text.Likeness
import CodeTwins.Text.Quoted
import CodeTwins.Text.Trim
import CodeTwins.Text.Utf8
import CodeTwins.Toml.Moment
import CodeTwins.Toml.Reader
import CodeTwins.Toml.Scalar
import CodeTwins.Toml.Value
import CodeTwins.Unicode.Alphanumeric
import CodeTwins.Unicode.CaseFold
import CodeTwins.Unicode.Digit
import CodeTwins.Unicode.Identifier
import CodeTwins.Unicode.LetterCase
import CodeTwins.Unicode.Printable
import CodeTwins.Unicode.Range
import CodeTwins.Unicode.Space
import CodeTwins.Vector.Bytes
import CodeTwins.Vector.Cosine
import CodeTwins.Vector.Matrix
import CodeTwins.Vector.Mean
import CodeTwins.Vector.Scalar
import CodeTwins.Proofs.Store.Tables
import CodeTwins.Proofs.Store.Records
import CodeTwins.Proofs.Store.Retention
import CodeTwins.Proofs.Service.Basic
import CodeTwins.Proofs.Embedding.Embedder
import CodeTwins.Proofs.Service.Assignment
import CodeTwins.Proofs.Service.Batch
import CodeTwins.Proofs.Element.Encode
import CodeTwins.Proofs.Element.Extraction
import CodeTwins.Proofs.Service.Run
import CodeTwins.Proofs.Service.OwnVectors
import CodeTwins.Proofs.Store.Interruption
import CodeTwins.Proofs.Service.Requests
import CodeTwins.Proofs.Service.Queries
import CodeTwins.Proofs.Service.HeldVectors
import CodeTwins.Proofs.Store.Same
import CodeTwins.Proofs.Service.OneByOne
import CodeTwins.Proofs.Embedding.Asking
import CodeTwins.Proofs.Service.Asking
import CodeTwins.Proofs.Vector.Similarities
import CodeTwins.Proofs.Similarity.Pairs
import CodeTwins.Proofs.Service.Pairs
import CodeTwins.Proofs.Files.Tree
import CodeTwins.Proofs.Scan.Walk
import CodeTwins.Proofs.Command.Shell
import CodeTwins.Proofs.Command.Visits
import CodeTwins.Proofs.Command.Scan
import CodeTwins.Proofs.Command.SubScans
import CodeTwins.Proofs.Embedding.Pool
import CodeTwins.Proofs.Decimal.Rounding
import CodeTwins.Proofs.Decimal.Bits
import CodeTwins.Proofs.Decimal.Nearest
import CodeTwins.Proofs.Decimal.Shortest
import CodeTwins.Proofs.Decimal.Layout
import CodeTwins.Proofs.Json.Reader
import CodeTwins.Proofs.Json.RoundTrip
import CodeTwins.Proofs.Json.Shape
import CodeTwins.Proofs.Vector.Bytes
import CodeTwins.Proofs.Element.Json
import CodeTwins.Proofs.Service.Replies
import CodeTwins.Proofs.Service.Numbering
import CodeTwins.Proofs.Client.Wire
import CodeTwins.Proofs.Service.Bounds
import CodeTwins.Proofs.Numeral
import CodeTwins.Proofs.Settings
import CodeTwins.Proofs.Decimal.NotANumber
import CodeTwins.Proofs.Similarity.Ranking
import CodeTwins.Proofs.Client.Calls
import CodeTwins.Proofs.Client.Submission
import CodeTwins.Proofs.Config.Usable
import CodeTwins.Proofs.Command.Similar
import CodeTwins.Proofs.Text.Utf8
import CodeTwins.Proofs.Toml.Values
import CodeTwins.Proofs.Toml.Document
import CodeTwins.Proofs.Config.Starter
import CodeTwins.Proofs.Traversal
import CodeTwins.Proofs.Source.Balanced
import CodeTwins.Proofs.Element.Selection
import CodeTwins.Proofs.Element.Bodies
import CodeTwins.Proofs.Config.Layers
import CodeTwins.Proofs.Config.IgnoreFiles
import CodeTwins.Proofs.Config.Patterns
import CodeTwins.Proofs.Unicode.LetterCase
import CodeTwins.Proofs.Config.Nearest
import CodeTwins.Proofs.Toml.TypedKeys
import CodeTwins.Proofs.Service.Arrival
import CodeTwins.Proofs.Service.Intake
import CodeTwins.Proofs.Service.Errors
import CodeTwins.Proofs.Text.Lines
import CodeTwins.Proofs.Embedding.Cuts
import CodeTwins.Proofs.Source.Comment
import CodeTwins.Proofs.Element.Comments
import CodeTwins.Proofs.Pattern.Spans
import CodeTwins.Proofs.Pattern.Match
import CodeTwins.Proofs.Pattern.Leftmost
import CodeTwins.Proofs.Pattern.Runs
import CodeTwins.Proofs.Pattern.Heads
import CodeTwins.Proofs.Element.Declaration
import CodeTwins.Proofs.Scan.Plan
import CodeTwins.Proofs.Scan.Wildcard
import CodeTwins.Proofs.Scan.Ignore
import CodeTwins.Proofs.Scan.Detect
import CodeTwins.Proofs.Similarity.Top
import CodeTwins.Proofs.Service.Top
import CodeTwins.Proofs.Vector.Undefined
import CodeTwins.Proofs.Service.Undefined
import CodeTwins.Proofs.Config.Faults
import CodeTwins.Proofs.Embedding.Reply
import CodeTwins.Proofs.Embedding.Whole
import CodeTwins.Proofs.Service.ProviderErrors
import CodeTwins.Proofs.Client.Replies
import CodeTwins.Proofs.Client.Account
import CodeTwins.Proofs.Command.Defects
import CodeTwins.Proofs.Source.Nested
import CodeTwins.Proofs.Element.Nested
import CodeTwins.Proofs.Vector.Angle
import CodeTwins.Proofs.Vector.Encoding
