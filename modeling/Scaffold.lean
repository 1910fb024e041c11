import Scaffold.Main
import Scaffold.Proofs.Path.Steps
import Scaffold.Proofs.FileSystem.Reading
import Scaffold.Proofs.FileSystem.Effects
import Scaffold.Proofs.Staging.Conservation
import Scaffold.Proofs.FileSystem.Preservation
import Scaffold.Proofs.FileSystem.Visiting
import Scaffold.Proofs.FileSystem.Enclosure
import Scaffold.Proofs.FileSystem.Confinement
import Scaffold.Proofs.FileSystem.Following
import Scaffold.Proofs.FileSystem.Passing
import Scaffold.Proofs.FileSystem.Making
import Scaffold.Proofs.FileSystem.Parents
import Scaffold.Proofs.Staging.Selecting
import Scaffold.Proofs.Staging.Deletion
import Scaffold.Proofs.Staging.Gathering
import Scaffold.Proofs.Staging.Moving
import Scaffold.Proofs.Staging.Templates
import Scaffold.Proofs.Staging.Enclosure
import Scaffold.Proofs.Staging.Confinement
import Scaffold.Proofs.FileSystem.Listing
import Scaffold.Proofs.Staging.Ignoring
import Scaffold.Proofs.Staging.Walking
import Scaffold.Proofs.Staging.Copying
import Scaffold.Proofs.Script.Reaching
import Scaffold.Proofs.Script.Enclosure
import Scaffold.Proofs.Script.Grouping
import Scaffold.Proofs.Script.Answering
import Scaffold.Proofs.Staging.Publication
import Scaffold.Proofs.Staging.Overlaying
import Scaffold.Proofs.Generation.NoTrace
import Scaffold.Proofs.FileSystem.Missing
import Scaffold.Proofs.Source.Fetching
import Scaffold.Proofs.CommandLine.Unforced
import Scaffold.Proofs.Template.Agreement
import Scaffold.Proofs.Template.Evaluation
import Scaffold.Proofs.FileSystem.Order
import Scaffold.Proofs.Staging.Processing
import Scaffold.Proofs.Environment
import Scaffold.Proofs.Script.Storing
import Scaffold.Proofs.FileSystem.Sharing
import Scaffold.Proofs.Template.Loading
import Scaffold.Proofs.Text.Spans
import Scaffold.Proofs.Template.Lexing
import Scaffold.Proofs.Template.Parsing
import Scaffold.Proofs.Template.Filling
import Scaffold.Proofs.Json.Spelling
import Scaffold.Proofs.Json.Writing
import Scaffold.Proofs.Document.Values
import Scaffold.Proofs.Script.Fields
import Scaffold.Proofs.Script.Describing
import Scaffold.Proofs.Script.Decoding
import Scaffold.Proofs.Document.Depth
import Scaffold.Proofs.Script.Levels
import Scaffold.Proofs.Script.Places
import Scaffold.Proofs.Script.Gaps
import Scaffold.Proofs.Json.Nodes
import Scaffold.Proofs.Script.Wrapping
import Scaffold.Proofs.Script.Asking
import Scaffold.Proofs.Script.Validating
import Scaffold.Proofs.Staging.Stopping
import Scaffold.Proofs.Staging.Settling
import Scaffold.Proofs.FileSystem.Renaming
import Scaffold.Proofs.Staging.Renaming
import Scaffold.Proofs.Wildcard.Remainders
import Scaffold.Proofs.Wildcard.Components
import Scaffold.Proofs.Wildcard.Segments
import Scaffold.Proofs.Builtin.Packages
import Scaffold.Proofs.Staging.Packaging
import Scaffold.Proofs.Template.Comparing
import Scaffold.Proofs.Script.Agreeing
import Scaffold.Proofs.Source.Addresses
import Scaffold.Proofs.Text.Bytes
import Scaffold.Proofs.Staging.Postorder
import Scaffold.Proofs.Staging.Collecting
