import Companion.Json.Printer
import Companion.Json.Reader
import Companion.Diagnostic.Terminal
import Companion.Diagnostic.Json
import Companion.Declaration.Json
import Companion.Config.Document
import Companion.Config.Validity
import Companion.Command.Run
import Companion.Generation.Trial
import Companion.Command.Arguments
import Companion.Main
import Companion.Proofs.Names
import Companion.Proofs.Validity
import Companion.Proofs.Extraction
import Companion.Proofs.Validation
import Companion.Proofs.Collisions
import Companion.Proofs.Generation
import Companion.Proofs.Layout
import Companion.Proofs.Part
import Companion.Proofs.Members
import Companion.Proofs.Statements
import Companion.Proofs.Population
import Companion.Proofs.PropertyName
import Companion.Proofs.FileStem
import Companion.Proofs.Runs
import Companion.Proofs.Workspace
import Companion.Proofs.Writing
import Companion.Proofs.Containment
import Companion.Proofs.LastWrites
import Companion.Proofs.Checking
import Companion.Proofs.Batches
import Companion.Proofs.Nesting
import Companion.Proofs.Shape
import Companion.Proofs.Reading
import Companion.Proofs.Effects
import Companion.Proofs.Levels
import Companion.Proofs.Selections
import Companion.Proofs.Decoding
import Companion.Proofs.RoundTrip
import Companion.Proofs.Outline
import Companion.Proofs.Plan
import Companion.Proofs.CollisionReports
import Companion.Proofs.WrittenType
import Companion.Proofs.TypePaths
import Companion.Proofs.Contract
import Companion.Proofs.Faults
import Companion.Proofs.SinkHistory
import Companion.Proofs.SourceLines
import Companion.Proofs.Excerpt
import Companion.Proofs.WrittenStem
import Companion.Proofs.Transcript
import Companion.Proofs.Discovery
