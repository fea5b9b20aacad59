import NaturalKey.Binary64
import NaturalKey.CommandLine.Arguments
import NaturalKey.CommandLine.Report
import NaturalKey.CommandLine.Run
import NaturalKey.Csv
import NaturalKey.Database.FileName
import NaturalKey.Database.Opening
import NaturalKey.Directory
import NaturalKey.Fault
import NaturalKey.Json
import NaturalKey.Json.Document
import NaturalKey.Json.Fault
import NaturalKey.Json.Numeral
import NaturalKey.Json.Reader
import NaturalKey.Json.Skip
import NaturalKey.Json.StringLiteral
import NaturalKey.Json.Text
import NaturalKey.Log
import NaturalKey.Lookup
import NaturalKey.Main
import NaturalKey.Pattern
import NaturalKey.Proofs.Binary64
import NaturalKey.Proofs.Binary64.Shortest
import NaturalKey.Proofs.CommandLine.Again
import NaturalKey.Proofs.CommandLine.Answer
import NaturalKey.Proofs.CommandLine.Arguments
import NaturalKey.Proofs.CommandLine.Diagnostics
import NaturalKey.Proofs.Csv.Document
import NaturalKey.Proofs.Csv.Texts
import NaturalKey.Proofs.Database.Opening
import NaturalKey.Proofs.Database.Work
import NaturalKey.Proofs.Directory
import NaturalKey.Proofs.Json.DoubleText
import NaturalKey.Proofs.Json.Exact
import NaturalKey.Proofs.Json.Grammar
import NaturalKey.Proofs.Json.Nesting
import NaturalKey.Proofs.Json.Number
import NaturalKey.Proofs.Json.Numeral
import NaturalKey.Proofs.Json.Pretty
import NaturalKey.Proofs.Json.Punctuation
import NaturalKey.Proofs.Json.Reader
import NaturalKey.Proofs.Json.Reading
import NaturalKey.Proofs.Json.Settled.Expect
import NaturalKey.Proofs.Json.Settled.Number
import NaturalKey.Proofs.Json.Settled.String
import NaturalKey.Proofs.Json.Settled.Value
import NaturalKey.Proofs.Json.Skipping
import NaturalKey.Proofs.Json.Spelled
import NaturalKey.Proofs.Json.Spelling
import NaturalKey.Proofs.Json.StringLiteral
import NaturalKey.Proofs.Json.Taken
import NaturalKey.Proofs.Json.Text
import NaturalKey.Proofs.Json.Unambiguous
import NaturalKey.Proofs.Json.Value
import NaturalKey.Proofs.Log
import NaturalKey.Proofs.Lookup
import NaturalKey.Proofs.Lookup.Latest
import NaturalKey.Proofs.Lookup.Memory
import NaturalKey.Proofs.Lookup.Origin
import NaturalKey.Proofs.Lookup.Readable
import NaturalKey.Proofs.Lookup.Registered
import NaturalKey.Proofs.Lookup.Seeded
import NaturalKey.Proofs.Lookup.Stores
import NaturalKey.Proofs.Outcome
import NaturalKey.Proofs.Record.Blank
import NaturalKey.Proofs.Record.Exact
import NaturalKey.Proofs.Record.Members
import NaturalKey.Proofs.Record.Nesting
import NaturalKey.Proofs.Record.Reading
import NaturalKey.Proofs.Record.Refused
import NaturalKey.Proofs.Record.Shapes
import NaturalKey.Proofs.Record.Written
import NaturalKey.Proofs.Registry
import NaturalKey.Proofs.Registry.Binding
import NaturalKey.Proofs.Registry.Layers
import NaturalKey.Proofs.Seed.Columns
import NaturalKey.Proofs.Seed.Decoding
import NaturalKey.Proofs.Seed.FrontEnds
import NaturalKey.Proofs.Seed.Loading
import NaturalKey.Proofs.Seed.Records
import NaturalKey.Proofs.Seed.Short
import NaturalKey.Proofs.Seed.Skipping
import NaturalKey.Proofs.Sink
import NaturalKey.Proofs.SortedMap
import NaturalKey.Proofs.Store.Key
import NaturalKey.Proofs.Store.Matching
import NaturalKey.Proofs.Store.Rows
import NaturalKey.Proofs.Store.Run
import NaturalKey.Proofs.Store.Table
import NaturalKey.Proofs.Store.View
import NaturalKey.Proofs.Tag
import NaturalKey.Proofs.Text.Blank
import NaturalKey.Proofs.Text.Utf8
import NaturalKey.Record
import NaturalKey.Record.Document
import NaturalKey.Registry
import NaturalKey.Seed
import NaturalKey.SortedMap
import NaturalKey.Store
import NaturalKey.Tag
import NaturalKey.Text
import NaturalKey.Text.Alphanumeric
import NaturalKey.Text.Printable
import NaturalKey.Traced
