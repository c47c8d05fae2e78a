import ChatArchive.Calendar.Date
import ChatArchive.Calendar.Printer
import ChatArchive.Calendar.Reader
import ChatArchive.Calendar.Timestamp
import ChatArchive.CommandLine.Arguments
import ChatArchive.CommandLine.Report
import ChatArchive.CommandLine.Run
import ChatArchive.Decimal.Shortest
import ChatArchive.Export.Document
import ChatArchive.Files.Basic
import ChatArchive.Files.Path
import ChatArchive.Files.Write
import ChatArchive.Filter.Criteria
import ChatArchive.Filter.Verdict
import ChatArchive.Json.Basic
import ChatArchive.Json.Decode
import ChatArchive.Json.Fault
import ChatArchive.Json.Printer
import ChatArchive.Json.Reader
import ChatArchive.Main
import ChatArchive.Operation.Browser
import ChatArchive.Operation.Delete
import ChatArchive.Operation.Drive
import ChatArchive.Operation.Export
import ChatArchive.Operation.Failure
import ChatArchive.Operation.Fetch
import ChatArchive.Operation.Index
import ChatArchive.Operation.Reply
import ChatArchive.Operation.Run
import ChatArchive.Operation.Script
import ChatArchive.Operation.Setup
import ChatArchive.Operation.Status
import ChatArchive.Operation.Task
import ChatArchive.Pattern.Matcher
import ChatArchive.Pattern.Program
import ChatArchive.Pattern.Reader
import ChatArchive.Pattern.Search
import ChatArchive.Pattern.Size
import ChatArchive.Pattern.Syntax
import ChatArchive.Query.Basic
import ChatArchive.Query.Matching
import ChatArchive.Query.Reader
import ChatArchive.Record.Basic
import ChatArchive.Service.Detail
import ChatArchive.Service.Listing
import ChatArchive.Service.Walk
import ChatArchive.Settings.Basic
import ChatArchive.Settings.Places
import ChatArchive.Settings.Text
import ChatArchive.Snapshot.Cache
import ChatArchive.Snapshot.Content
import ChatArchive.Snapshot.Metadata
import ChatArchive.Store.Basic
import ChatArchive.Store.Merge
import ChatArchive.Store.Selection
import ChatArchive.Text.Basic
import ChatArchive.Text.Display
import ChatArchive.Text.Lowercase
import ChatArchive.Text.Quoted
import ChatArchive.Toml.Basic
import ChatArchive.Toml.Number
import ChatArchive.Toml.Printer
import ChatArchive.Toml.Quoted
import ChatArchive.Toml.Reader
import ChatArchive.Toml.Table
import ChatArchive.Unicode.CaseMap
import ChatArchive.Unicode.Category
import ChatArchive.Unicode.CharSet
import ChatArchive.Unicode.Lookup
import ChatArchive.Unicode.Property
import ChatArchive.Unicode.Script
import ChatArchive.Url.Address
import ChatArchive.Url.Basic
import ChatArchive.Url.Host
import ChatArchive.Url.Percent
import ChatArchive.Url.Punycode
import ChatArchive.Url.Reader
import ChatArchive.Word
import ChatArchive.Proofs.Text.Basic
import ChatArchive.Proofs.Query.Words
import ChatArchive.Proofs.Query.Snippet
import ChatArchive.Proofs.Query.Terms
import ChatArchive.Proofs.Filter.Verdict
import ChatArchive.Proofs.Store.Index
import ChatArchive.Proofs.Store.Order
import ChatArchive.Proofs.Store.Reachable
import ChatArchive.Proofs.Store.Data
import ChatArchive.Proofs.Store.View
import ChatArchive.Proofs.Operation.Atomic
import ChatArchive.Proofs.Operation.Statuses
import ChatArchive.Proofs.Operation.Course
import ChatArchive.Proofs.Json.RoundTrip
import ChatArchive.Proofs.Operation.Deadline
import ChatArchive.Proofs.Calendar.Civil
import ChatArchive.Proofs.Calendar.Order
import ChatArchive.Proofs.Calendar.RoundTrip
import ChatArchive.Proofs.Files.Path
import ChatArchive.Proofs.Files.Write
import ChatArchive.Proofs.Files.Replacing
import ChatArchive.Proofs.Json.Decode
import ChatArchive.Proofs.Store.Restore
import ChatArchive.Proofs.Store.Resort
import ChatArchive.Proofs.Snapshot.Content
import ChatArchive.Proofs.Snapshot.RoundTrip
import ChatArchive.Proofs.Snapshot.Failure
import ChatArchive.Proofs.Query.Remainder
import ChatArchive.Proofs.Query.ByWords
import ChatArchive.Proofs.Text.Separator
import ChatArchive.Proofs.Query.Exclusion
import ChatArchive.Proofs.Filter.Exclusion
import ChatArchive.Proofs.Filter.Bounds
import ChatArchive.Proofs.Snapshot.Outcome
import ChatArchive.Proofs.Text.Sigma
import ChatArchive.Proofs.Query.Standing
import ChatArchive.Proofs.Service.Walk
import ChatArchive.Proofs.Store.Listing
import ChatArchive.Proofs.Operation.Fetch
import ChatArchive.Proofs.Operation.Delete
import ChatArchive.Proofs.Operation.Index
import ChatArchive.Proofs.Text.Display
import ChatArchive.Proofs.CommandLine.Found
import ChatArchive.Proofs.CommandLine.Agreement
import ChatArchive.Proofs.Json.Spelling
import ChatArchive.Proofs.Json.Value
import ChatArchive.Proofs.Json.Member
import ChatArchive.Proofs.Json.Record
import ChatArchive.Proofs.Json.Uniform
import ChatArchive.Proofs.Operation.Reply
import ChatArchive.Proofs.Operation.Script
import ChatArchive.Proofs.Export.Document
import ChatArchive.Proofs.Operation.Export
import ChatArchive.Proofs.Store.Remerge
import ChatArchive.Proofs.Calendar.DateText
import ChatArchive.Proofs.Text.Lowered
import ChatArchive.Proofs.Query.WellFormed
import ChatArchive.Proofs.Text.Shares
import ChatArchive.Proofs.Query.Excerpt
import ChatArchive.Proofs.Operation.Selection
import ChatArchive.Proofs.Snapshot.Summary
import ChatArchive.Proofs.Operation.IndexReport
import ChatArchive.Proofs.Store.Selection
import ChatArchive.Proofs.Store.Content
import ChatArchive.Proofs.Snapshot.Age
import ChatArchive.Proofs.Text.Line
import ChatArchive.Proofs.Operation.Polling
import ChatArchive.Proofs.Operation.Count
import ChatArchive.Proofs.Toml.Quoted
import ChatArchive.Proofs.Toml.Scalar
import ChatArchive.Proofs.Toml.Document
import ChatArchive.Proofs.Toml.Part
import ChatArchive.Proofs.Settings.Reload
