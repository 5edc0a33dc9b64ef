import ClassTidy.Breakdown
import ClassTidy.Cache.Basic
import ClassTidy.Cache.Session
import ClassTidy.ClassList.Basic
import ClassTidy.ClassList.Normal
import ClassTidy.ClassList.Order
import ClassTidy.Command.Arguments
import ClassTidy.Command.Report
import ClassTidy.Command.Run
import ClassTidy.Digest.Sha256
import ClassTidy.Document.Edit
import ClassTidy.Document.Lines
import ClassTidy.Json.Basic
import ClassTidy.Json.Printer
import ClassTidy.Json.Reader
import ClassTidy.Json.Shown
import ClassTidy.Log
import ClassTidy.Main
import ClassTidy.Number.Binary64
import ClassTidy.Number.Integer
import ClassTidy.Number.Shortest
import ClassTidy.Pattern.Basic
import ClassTidy.Pattern.CharTest
import ClassTidy.Pattern.Fault
import ClassTidy.Pattern.Matcher
import ClassTidy.Pattern.Node
import ClassTidy.Pattern.Part
import ClassTidy.Pattern.Reader
import ClassTidy.Rank.Basic
import ClassTidy.Rank.File
import ClassTidy.Rank.Table
import ClassTidy.Service
import ClassTidy.Settings.Basic
import ClassTidy.Settings.Decode
import ClassTidy.Settings.Fingerprint
import ClassTidy.Settings.Registry
import ClassTidy.Sorting
import ClassTidy.Span.Basic
import ClassTidy.Span.Call
import ClassTidy.Span.Find
import ClassTidy.Span.Literal
import ClassTidy.Span.Merge
import ClassTidy.Span.Rule
import ClassTidy.Text.Basic
import ClassTidy.Text.Blank
import ClassTidy.Text.Casing
import ClassTidy.Text.Digits
import ClassTidy.Text.Identifier
import ClassTidy.Text.Letters
import ClassTidy.Text.Name.Alias
import ClassTidy.Text.Name.Basic
import ClassTidy.Text.Name.ListingA
import ClassTidy.Text.Name.ListingB
import ClassTidy.Text.Name.ListingC
import ClassTidy.Text.Name.ListingD
import ClassTidy.Text.Name.ListingE
import ClassTidy.Text.Name.ListingF
import ClassTidy.Text.Name.ListingG
import ClassTidy.Text.Name.ListingH
import ClassTidy.Text.Name.Lookup
import ClassTidy.Text.Printable
import ClassTidy.Text.Quoted
import ClassTidy.Text.Utf8
import ClassTidy.Workspace.FileTree
import ClassTidy.Workspace.Path
import ClassTidy.Proofs.Slice
import ClassTidy.Proofs.Sorting
import ClassTidy.Proofs.Splice
import ClassTidy.Proofs.Order
import ClassTidy.Proofs.SpanPlaces
import ClassTidy.Proofs.Split
import ClassTidy.Proofs.Trim
import ClassTidy.Proofs.Canonical
import ClassTidy.Proofs.KeptWords
import ClassTidy.Proofs.ServiceEdits
import ClassTidy.Proofs.Documents
import ClassTidy.Proofs.Sweep
import ClassTidy.Proofs.Matching
import ClassTidy.Proofs.Fence
import ClassTidy.Proofs.Lockstep
import ClassTidy.Proofs.Calls
import ClassTidy.Proofs.Quiet
import ClassTidy.Proofs.Rescan
import ClassTidy.Proofs.FileRun
import ClassTidy.Proofs.WriteCheck
import ClassTidy.Proofs.Flights
import ClassTidy.Proofs.Supersession
import ClassTidy.Proofs.Waiters
import ClassTidy.Proofs.OneForm
import ClassTidy.Proofs.Visits
import ClassTidy.Proofs.Rewriting
import ClassTidy.Proofs.Unbuilt
import ClassTidy.Proofs.SortedClasses
import ClassTidy.Proofs.Stitch
import ClassTidy.Proofs.Independence
import ClassTidy.Proofs.Literals
import ClassTidy.Proofs.SingleSpaces
import ClassTidy.Proofs.Balance
import ClassTidy.Proofs.ForwardEdits
import ClassTidy.Proofs.Strings
import ClassTidy.Proofs.MergedSpans
import ClassTidy.Proofs.NestedEdits
import ClassTidy.Proofs.HeldEnds
import ClassTidy.Proofs.TidyLayout
import ClassTidy.Proofs.Peeling
import ClassTidy.Proofs.Callees
import ClassTidy.Proofs.LiteralPattern
import ClassTidy.Proofs.CallReading
import ClassTidy.Proofs.CallPattern
import ClassTidy.Proofs.RuleFaults
import ClassTidy.Proofs.Languages
import ClassTidy.Proofs.ScopedEdits
import ClassTidy.Proofs.CapturedEdits
import ClassTidy.Proofs.LeftmostLiterals
import ClassTidy.Proofs.Reading
import ClassTidy.Proofs.Fingerprints
import ClassTidy.Proofs.ValidSettings
import ClassTidy.Proofs.Fractions
import ClassTidy.Proofs.TableFiles
import ClassTidy.Proofs.Positions
