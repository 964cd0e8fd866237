import Gazette.Article.Basic
import Gazette.Article.Display
import Gazette.Article.Fingerprint
import Gazette.Article.Related
import Gazette.Article.Serial
import Gazette.Bytes.Base64
import Gazette.Bytes.Corruption
import Gazette.Bytes.Crc32
import Gazette.Bytes.Gzip
import Gazette.Bytes.Inflate
import Gazette.Bytes.Md5
import Gazette.Bytes.Utf8
import Gazette.Chars.Blank
import Gazette.Chars.Clean
import Gazette.Chars.Cut
import Gazette.Charset.Basic
import Gazette.Charset.Body
import Gazette.Charset.Decode
import Gazette.Charset.Detect
import Gazette.Charset.Gb18030
import Gazette.Charset.Index
import Gazette.Charset.Index.Big5
import Gazette.Charset.Index.Hangul
import Gazette.Charset.Index.Hanzi
import Gazette.Charset.Index.Kanji
import Gazette.Charset.Index.RareKanji
import Gazette.Charset.Japanese
import Gazette.Charset.Pairs
import Gazette.Charset.Upper
import Gazette.Client
import Gazette.CommandLine.Arguments
import Gazette.CommandLine.Run
import Gazette.Failure.Basic
import Gazette.Failure.Issues
import Gazette.Fetch.Decoder
import Gazette.Fetch.Header
import Gazette.Fetch.Pipeline
import Gazette.Fetch.Query
import Gazette.Fetch.Retriever
import Gazette.Fetch.Stage
import Gazette.Fetch.Transport
import Gazette.Head.Basic
import Gazette.Head.Table
import Gazette.Html.Arena
import Gazette.Html.Builder
import Gazette.Html.Edge
import Gazette.Html.Node
import Gazette.Html.Reader
import Gazette.Html.Reference
import Gazette.Html.Rules
import Gazette.Html.Rules.Body
import Gazette.Html.Rules.Table
import Gazette.Html.Spot
import Gazette.Html.Token
import Gazette.Json.Fault
import Gazette.Json.Printer
import Gazette.Json.Reader
import Gazette.Json.Record
import Gazette.Json.Skip
import Gazette.Json.Token
import Gazette.Json.Value
import Gazette.LinkedData.Basic
import Gazette.LinkedData.Block
import Gazette.Main
import Gazette.Number.Binary64
import Gazette.Number.Digits
import Gazette.Number.Shortest
import Gazette.Options
import Gazette.Selector.Basic
import Gazette.Selector.Find
import Gazette.Selector.Path
import Gazette.Selector.Reader
import Gazette.Selector.Token
import Gazette.Site.Basic
import Gazette.Site.Body
import Gazette.Site.Broadcasters
import Gazette.Site.Byline
import Gazette.Site.Extraction
import Gazette.Site.Identifier
import Gazette.Site.Mending
import Gazette.Site.Newspapers
import Gazette.Site.Online
import Gazette.Site.Registry
import Gazette.Site.Section
import Gazette.Site.Title
import Gazette.Table
import Gazette.Text
import Gazette.Text.Keywords
import Gazette.Text.Quoted
import Gazette.Time.Calendar
import Gazette.Time.Instant
import Gazette.Time.Timestamp
import Gazette.Unicode.Alphanumeric
import Gazette.Unicode.Composition
import Gazette.Unicode.Digit
import Gazette.Unicode.Direction
import Gazette.Unicode.Joining
import Gazette.Unicode.Lowercase
import Gazette.Unicode.Normal
import Gazette.Unicode.Printable
import Gazette.Unicode.Ranges
import Gazette.Unicode.Rows
import Gazette.Unicode.Word
import Gazette.Url.Basic
import Gazette.Url.Host
import Gazette.Url.HostMapping
import Gazette.Url.HostName
import Gazette.Url.Percent
import Gazette.Url.Punycode
import Gazette.Url.Query
import Gazette.Url.Reader
import Gazette.Proofs.Article.Outline
import Gazette.Proofs.Site.Conventions
import Gazette.Proofs.Site.Precedence
import Gazette.Proofs.Client.Agreement
import Gazette.Proofs.Pipeline.Accounting
import Gazette.Proofs.Pipeline.Completion
import Gazette.Proofs.Pipeline.Cancellation
import Gazette.Proofs.Site.Identity
import Gazette.Proofs.Chars.Edges
import Gazette.Proofs.Chars.Pieces
import Gazette.Proofs.Article.Sorted
import Gazette.Proofs.Article.WellFormed
import Gazette.Proofs.Site.Drafts
import Gazette.Proofs.Site.Records
import Gazette.Proofs.Site.Bylines
import Gazette.Proofs.Site.Stories
import Gazette.Proofs.Site.Authors
import Gazette.Proofs.Site.Credits
import Gazette.Proofs.Site.KnownAuthors
import Gazette.Proofs.LinkedData.Blocks
import Gazette.Proofs.Site.Decoding
import Gazette.Proofs.Article.Links
import Gazette.Proofs.Site.Links
import Gazette.Proofs.Site.Reports
import Gazette.Proofs.Article.Merging
import Gazette.Proofs.Json.Grammar
import Gazette.Proofs.LinkedData.Isolation
import Gazette.Proofs.Site.Registration
import Gazette.Proofs.Number.Digits
import Gazette.Proofs.Time.Calendar
import Gazette.Proofs.Time.Days
import Gazette.Proofs.Time.Exact
import Gazette.Proofs.Time.Timestamps
import Gazette.Proofs.Json.Records
import Gazette.Proofs.Article.RoundTrip
import Gazette.Proofs.Article.Fingerprints
import Gazette.Proofs.Json.Tokens
import Gazette.Proofs.Json.Denotation
import Gazette.Proofs.LinkedData.LineBreaks
import Gazette.Proofs.LinkedData.Narrowing
import Gazette.Proofs.Json.Renaming
import Gazette.Proofs.LinkedData.Acceptance
import Gazette.Proofs.LinkedData.Describing
import Gazette.Proofs.Chars.Visible
import Gazette.Proofs.Chars.Words
import Gazette.Proofs.Chars.Lines
import Gazette.Proofs.Article.Layout
import Gazette.Proofs.Head.Address
import Gazette.Proofs.Site.UnreadableLinks
import Gazette.Proofs.Head.Collection
import Gazette.Proofs.Head.LocalTimes
import Gazette.Proofs.Selector.Unlinked
import Gazette.Proofs.Article.Related
import Gazette.Proofs.Html.Outside
import Gazette.Proofs.LinkedData.Bytes
import Gazette.Proofs.LinkedData.Cutting
import Gazette.Proofs.LinkedData.Arity
import Gazette.Proofs.LinkedData.Listed
import Gazette.Proofs.Site.Addresses
import Gazette.Proofs.Fetch.Reading
import Gazette.Proofs.Fetch.Settings
import Gazette.Proofs.Text.Escapes
