import HiveScript.Main
import HiveScript.Program.Single
import HiveScript.Program.Whole
import HiveScript.Proofs.Conversion.Binding
import HiveScript.Proofs.Conversion.Concatenation
import HiveScript.Proofs.Conversion.Headers
import HiveScript.Proofs.Conversion.LineFeeds
import HiveScript.Proofs.Conversion.Numbers
import HiveScript.Proofs.Conversion.Result
import HiveScript.Proofs.Export.RoundTrip
import HiveScript.Proofs.Registry.Tokens
import HiveScript.Proofs.Script.Unambiguous
import HiveScript.Proofs.Batch.Candidates
import HiveScript.Proofs.Run.Triple
import HiveScript.Proofs.Disk.Paths
import HiveScript.Proofs.Batch.Targets
import HiveScript.Proofs.Disk.Places
import HiveScript.Proofs.Run.Keeping
import HiveScript.Proofs.Run.Files
import HiveScript.Proofs.Disk.Trees
import HiveScript.Proofs.Batch.Scripts
import HiveScript.Proofs.Batch.Beside
import HiveScript.Proofs.Batch.Overwriting
import HiveScript.Proofs.Disk.Overlays
import HiveScript.Proofs.Run.Atomic
import HiveScript.Proofs.Run.Following
import HiveScript.Proofs.Batch.Steps
import HiveScript.Proofs.Batch.Histories
import HiveScript.Proofs.Batch.Sparing
import HiveScript.Proofs.Batch.Independence
import HiveScript.Proofs.Batch.Isolation
import HiveScript.Proofs.Program.Preparation
import HiveScript.Proofs.Program.Containment
import HiveScript.Proofs.Run.AllOrNothing
import HiveScript.Proofs.Conversion.Layout
import HiveScript.Proofs.Text.Breaks
import HiveScript.Proofs.Conversion.Counts
import HiveScript.Proofs.Program.Destinations
import HiveScript.Proofs.Program.Overriding
import HiveScript.Proofs.Options.Early
import HiveScript.Proofs.Log.Routing
import HiveScript.Proofs.Batch.Telling
import HiveScript.Proofs.Batch.Names
import HiveScript.Proofs.Encoding.Exports
import HiveScript.Proofs.Encoding.Escapes
import HiveScript.Proofs.Json.Escaped
import HiveScript.Proofs.Log.JsonLines
import HiveScript.Proofs.Script.Layout
import HiveScript.Proofs.Configuration.Loading
import HiveScript.Proofs.Configuration.Substitution
import HiveScript.Proofs.Conversion.Marks
import HiveScript.Proofs.Fault.Messages
import HiveScript.Proofs.Fault.Codes
import HiveScript.Proofs.Program.Comments
import HiveScript.Proofs.Program.Single
