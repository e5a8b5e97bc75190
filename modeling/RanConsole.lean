import RanConsole.Http.Script
import RanConsole.Log.Entry
import RanConsole.Main
import RanConsole.Proofs.Query.Pieces
import RanConsole.Proofs.Query.Written
import RanConsole.Proofs.Client.Attempts
import RanConsole.Proofs.Client.Exactness
import RanConsole.Proofs.Query.RoundTrip
import RanConsole.Proofs.Client.Containment
import RanConsole.Proofs.Mapping
import RanConsole.Proofs.Config.Seen
import RanConsole.Proofs.Config.Reload
import RanConsole.Proofs.Config.Fit
import RanConsole.Proofs.Config.SetValue
import RanConsole.Proofs.Query.Compilation
import RanConsole.Proofs.Query.Sides
import RanConsole.Proofs.Query.Refusal
import RanConsole.Proofs.Query.Composition
import RanConsole.Proofs.Query.Unclosed
import RanConsole.Proofs.Query.Strict
import RanConsole.Proofs.Json.RoundTrip
import RanConsole.Proofs.Json.Halves
import RanConsole.Proofs.Client.Keeping
import RanConsole.Proofs.Client.Shelf
import RanConsole.Proofs.CommandLine.Change
import RanConsole.Proofs.CommandLine.History
import RanConsole.Proofs.CommandLine.Objects
import RanConsole.Proofs.CommandLine.Streaming
import RanConsole.Proofs.Client.Told
import RanConsole.Proofs.CommandLine.Unsuccessful
import RanConsole.Proofs.CommandLine.Setting
import RanConsole.Proofs.Config.Precedence
import RanConsole.Proofs.Query.Agreement
import RanConsole.Proofs.Client.Queries
import RanConsole.Proofs.Options.Pieces
import RanConsole.Proofs.Log.Report
import RanConsole.Proofs.Validation
import RanConsole.Proofs.Client.SentBack
import RanConsole.Proofs.Query.OuterCommas
import RanConsole.Proofs.Query.Accounting
import RanConsole.Proofs.Query.WellFormed
import RanConsole.Proofs.CommandLine.LabelOrder
import RanConsole.Proofs.Query.Gap
import RanConsole.Proofs.Query.Kinds
import RanConsole.Proofs.Yaml.Merge
import RanConsole.Proofs.Listing.Records
import RanConsole.Proofs.Listing.Stream
import RanConsole.Proofs.Listing.Columns
import RanConsole.Proofs.CommandLine.Refused
