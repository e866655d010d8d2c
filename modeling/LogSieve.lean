import LogSieve.Answer
import LogSieve.Main
import LogSieve.Proofs.Answer
import LogSieve.Proofs.Association
import LogSieve.Proofs.Calendar.Compact
import LogSieve.Proofs.Calendar.Date
import LogSieve.Proofs.Calendar.Instant
import LogSieve.Proofs.Calendar.Spelling
import LogSieve.Proofs.Calendar.Stamp
import LogSieve.Proofs.CommandLine.Bounds
import LogSieve.Proofs.CommandLine.Listing
import LogSieve.Proofs.Encoding.LineFeed
import LogSieve.Proofs.Encoding.Lines
import LogSieve.Proofs.Encoding.Unified
import LogSieve.Proofs.Encoding.Utf8
import LogSieve.Proofs.Json.Braces
import LogSieve.Proofs.Json.Depth
import LogSieve.Proofs.Json.Document
import LogSieve.Proofs.Json.Elements
import LogSieve.Proofs.Json.Extent
import LogSieve.Proofs.Json.Limits
import LogSieve.Proofs.Json.Numbers
import LogSieve.Proofs.Json.Reading
import LogSieve.Proofs.Json.Scalars
import LogSieve.Proofs.Number.Literal
import LogSieve.Proofs.Number.Rounding
import LogSieve.Proofs.Number.Whole
import LogSieve.Proofs.Number.Written
import LogSieve.Proofs.Outcome
import LogSieve.Proofs.Pattern.Depth
import LogSieve.Proofs.Query.Conjunction
import LogSieve.Proofs.Query.Cuts
import LogSieve.Proofs.Query.Filters
import LogSieve.Proofs.Query.Flags
import LogSieve.Proofs.Query.Forms
import LogSieve.Proofs.Query.Grammar
import LogSieve.Proofs.Query.JsonNumbers
import LogSieve.Proofs.Query.Labels
import LogSieve.Proofs.Query.LeadingNumber
import LogSieve.Proofs.Query.Negation
import LogSieve.Proofs.Query.Pieces
import LogSieve.Proofs.Query.Printing
import LogSieve.Proofs.Query.Ranges
import LogSieve.Proofs.Query.Refusals
import LogSieve.Proofs.Query.Seams
import LogSieve.Proofs.Query.Selection
import LogSieve.Proofs.Query.Spelling
import LogSieve.Proofs.Query.Stability
import LogSieve.Proofs.Query.Verbatim
import LogSieve.Proofs.Record.Embedded
import LogSieve.Proofs.Record.Fields
import LogSieve.Proofs.Record.FirstObject
import LogSieve.Proofs.Record.Leading
import LogSieve.Proofs.Record.Limits
import LogSieve.Proofs.Record.Pairs
import LogSieve.Proofs.Report
import LogSieve.Proofs.Resource
import LogSieve.Proofs.Resource.Names
import LogSieve.Proofs.Scan
import LogSieve.Proofs.Scan.Appended
import LogSieve.Proofs.Scan.Epochs
import LogSieve.Proofs.Scan.Faults
import LogSieve.Proofs.Scan.Limited
import LogSieve.Proofs.Scan.LocalTimes
import LogSieve.Proofs.Scan.Served
import LogSieve.Proofs.Scan.Unlimited
import LogSieve.Proofs.Scan.Windows
import LogSieve.Proofs.Search
import LogSieve.Proofs.Search.Bounds
import LogSieve.Proofs.Severity
import LogSieve.Proofs.Stack
import LogSieve.Proofs.Store.Contents
import LogSieve.Proofs.Store.Suffix
import LogSieve.Proofs.Text.Lowering
import LogSieve.Proofs.Text.Parts
import LogSieve.Proofs.Text.Sigma
import LogSieve.Proofs.Text.Strip
import LogSieve.Report
import LogSieve.Resource
import LogSieve.Search
import LogSieve.Server
