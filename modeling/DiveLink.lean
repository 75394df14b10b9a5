import DiveLink.Calendar.Date
import DiveLink.Calendar.Instant
import DiveLink.Calendar.Rfc3339
import DiveLink.CommandLine.Arguments
import DiveLink.CommandLine.Run
import DiveLink.Dive
import DiveLink.Dive.Scan
import DiveLink.DiveComputer
import DiveLink.DumpMetadata
import DiveLink.Event
import DiveLink.Event.Json
import DiveLink.Fault
import DiveLink.Files.Access
import DiveLink.Files.Path
import DiveLink.Files.Store
import DiveLink.Fingerprint
import DiveLink.FingerprintCache
import DiveLink.Json.Brackets
import DiveLink.Json.Complaint
import DiveLink.Json.Lexeme
import DiveLink.Json.Number
import DiveLink.Json.Schema
import DiveLink.Json.Tree
import DiveLink.Link.Command
import DiveLink.Link.Emulated
import DiveLink.Link.Report
import DiveLink.Link.Scripted
import DiveLink.Link.Transfer
import DiveLink.Listing
import DiveLink.LogFilter
import DiveLink.Main
import DiveLink.Pattern
import DiveLink.Pattern.Atom
import DiveLink.Pattern.CharacterSet
import DiveLink.Proofs.Layout
import DiveLink.Proofs.Stream
import DiveLink.Proofs.Walk
import DiveLink.Session
import DiveLink.Settings
import DiveLink.Sha256
import DiveLink.Text.Decimal
import DiveLink.Text.Hex
import DiveLink.Text.Quoted
import DiveLink.Text.Ranges
import DiveLink.Text.Shortest
import DiveLink.Tool.Download
import DiveLink.Tool.Extract
import DiveLink.Tool.Output
import DiveLink.Word
import DiveLink.Proofs.Course
import DiveLink.Proofs.Emulation
import DiveLink.Proofs.Places
import DiveLink.Proofs.Newer
import DiveLink.Proofs.Reassembly
import DiveLink.Proofs.Script
import DiveLink.Proofs.Remembering
import DiveLink.Proofs.Cursor
import DiveLink.Proofs.Times
import DiveLink.Proofs.Increments
import DiveLink.Proofs.History
import DiveLink.Proofs.Repetition
import DiveLink.Proofs.Identity
import DiveLink.Proofs.Faulty
import DiveLink.Proofs.Retries
import DiveLink.Proofs.Offline
import DiveLink.Proofs.Extents
import DiveLink.Proofs.Entries
import DiveLink.Proofs.Agreement
import DiveLink.Proofs.Writing
import DiveLink.Proofs.Digits
import DiveLink.Proofs.Days
import DiveLink.Proofs.Timestamps
import DiveLink.Proofs.Lexemes
import DiveLink.Proofs.Records
import DiveLink.Proofs.Texts
import DiveLink.Proofs.SettingsHistory
import DiveLink.Proofs.Beside
import DiveLink.Proofs.Completion
import DiveLink.Proofs.Visitors
import DiveLink.Proofs.OlderBytes
import DiveLink.Proofs.Hexadecimal
import DiveLink.Proofs.PrintedForm
import DiveLink.Proofs.Ticks
import DiveLink.Proofs.Resumption
