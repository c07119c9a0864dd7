import SourceAudit.Catalog
import SourceAudit.Decimal.Binary64
import SourceAudit.Decimal.Digits
import SourceAudit.Decimal.Numeral
import SourceAudit.Decimal.Shortest
import SourceAudit.Enhancement.Client
import SourceAudit.Enhancement.Completion
import SourceAudit.Enhancement.Config
import SourceAudit.Enhancement.Fence
import SourceAudit.Enhancement.Prompt
import SourceAudit.FileTree.Basic
import SourceAudit.FileTree.Path
import SourceAudit.Finding
import SourceAudit.Finding.Validation
import SourceAudit.History.Document
import SourceAudit.History.Entry
import SourceAudit.History.Store
import SourceAudit.Json.Basic
import SourceAudit.Json.Display
import SourceAudit.Json.Layout
import SourceAudit.Json.Parser
import SourceAudit.Json.Strict
import SourceAudit.Main
import SourceAudit.Manifest
import SourceAudit.Manifest.Files
import SourceAudit.Network.Address
import SourceAudit.Network.Exchange
import SourceAudit.Network.Gemini
import SourceAudit.Network.Host
import SourceAudit.Network.Library
import SourceAudit.Network.OpenRouter
import SourceAudit.Network.Percent
import SourceAudit.Network.Url
import SourceAudit.Password
import SourceAudit.Proofs.Catalog
import SourceAudit.Proofs.Decimal.Digits
import SourceAudit.Proofs.Detection
import SourceAudit.Proofs.Detection.Once
import SourceAudit.Proofs.Enhancement.Echo
import SourceAudit.Proofs.Enhancement.Fence
import SourceAudit.Proofs.FileTree.Frame
import SourceAudit.Proofs.FileTree.Standing
import SourceAudit.Proofs.Finding.RoundTrip
import SourceAudit.Proofs.History.Codec
import SourceAudit.Proofs.History.Document
import SourceAudit.Proofs.History.Failure
import SourceAudit.Proofs.History.Run
import SourceAudit.Proofs.History.Save
import SourceAudit.Proofs.History.Settled
import SourceAudit.Proofs.Json.Ascii
import SourceAudit.Proofs.Json.Members
import SourceAudit.Proofs.Json.Numbers
import SourceAudit.Proofs.Json.Page
import SourceAudit.Proofs.Json.RoundTrip
import SourceAudit.Proofs.Json.Steps
import SourceAudit.Proofs.Json.Strict
import SourceAudit.Proofs.Json.Strings
import SourceAudit.Proofs.Json.Writable
import SourceAudit.Proofs.Manifest.Aggregate
import SourceAudit.Proofs.Manifest.Agreement
import SourceAudit.Proofs.Manifest.Answering
import SourceAudit.Proofs.Manifest.Entries
import SourceAudit.Proofs.Manifest.Severities
import SourceAudit.Proofs.Manifest.Streams
import SourceAudit.Proofs.Network.Extraction
import SourceAudit.Proofs.Network.Header
import SourceAudit.Proofs.Network.Settlement
import SourceAudit.Proofs.Password.Grammar
import SourceAudit.Proofs.Password.Search
import SourceAudit.Proofs.Report
import SourceAudit.Proofs.Report.Extension
import SourceAudit.Proofs.Report.Selection
import SourceAudit.Proofs.Scan.Breaks
import SourceAudit.Proofs.Scan.Composition
import SourceAudit.Proofs.Scan.Exactness
import SourceAudit.Proofs.Scan.LineEnds
import SourceAudit.Proofs.Scan.Surroundings
import SourceAudit.Proofs.Service.Enhancement
import SourceAudit.Proofs.Service.Independence
import SourceAudit.Proofs.Service.Routing
import SourceAudit.Proofs.Service.Run
import SourceAudit.Proofs.Service.Secrecy
import SourceAudit.Proofs.Service.Sendable
import SourceAudit.Proofs.Settings.Configuration
import SourceAudit.Proofs.Settings.Origins
import SourceAudit.Proofs.Settings.Unset
import SourceAudit.Proofs.Text.Breaks
import SourceAudit.Proofs.Text.Encode
import SourceAudit.Proofs.Text.Letters
import SourceAudit.Proofs.Text.Lines
import SourceAudit.Proofs.Text.Loose
import SourceAudit.Proofs.Text.Lowercase
import SourceAudit.Proofs.Text.Occurrence
import SourceAudit.Proofs.Text.Pattern
import SourceAudit.Proofs.Text.Runs
import SourceAudit.Proofs.Text.Trim
import SourceAudit.Proofs.Text.Utf8
import SourceAudit.Proofs.Text.Word
import SourceAudit.Proofs.Timestamp.RoundTrip
import SourceAudit.Proofs.Validation.Valid
import SourceAudit.Report
import SourceAudit.Rule
import SourceAudit.Scan
import SourceAudit.Service.Basic
import SourceAudit.Service.Body
import SourceAudit.Service.Message
import SourceAudit.Service.Origin
import SourceAudit.Settings
import SourceAudit.Severity
import SourceAudit.Severity.Selection
import SourceAudit.Text.Base64
import SourceAudit.Text.Blank
import SourceAudit.Text.CodeRange
import SourceAudit.Text.Encode
import SourceAudit.Text.Encoding
import SourceAudit.Text.Hexadecimal
import SourceAudit.Text.Lines
import SourceAudit.Text.Loose
import SourceAudit.Text.Lowercase
import SourceAudit.Text.Occurrence
import SourceAudit.Text.Piece
import SourceAudit.Text.Printable
import SourceAudit.Text.Quoted
import SourceAudit.Text.Utf8
import SourceAudit.Text.Word
import SourceAudit.Timestamp.Basic
import SourceAudit.Timestamp.Reading
import SourceAudit.Validation.Basic
import SourceAudit.Validation.Field
