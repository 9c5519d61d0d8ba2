import ClientGen.Conversion.Reader
import ClientGen.Document.Edit
import ClientGen.Main
import ClientGen.Proofs.Document.Keys
import ClientGen.Proofs.Operation.Collection
import ClientGen.Proofs.Document.Preparation
import ClientGen.Proofs.Generation.Stages
import ClientGen.Proofs.Operation.Identity
import ClientGen.Proofs.Operation.Prepared
import ClientGen.Proofs.Client.Coroutines
import ClientGen.Proofs.Agreement
import ClientGen.Proofs.Document.Reordering
import ClientGen.Proofs.Schema.Reordering
import ClientGen.Proofs.Operation.Reordering
import ClientGen.Proofs.Client.Rendering
import ClientGen.Proofs.Generation.MemberOrder
import ClientGen.Proofs.Client.Dispatch
import ClientGen.Proofs.Document.Pruning
import ClientGen.Proofs.Document.Composition
import ClientGen.Proofs.Operation.Gating
import ClientGen.Proofs.Document.Enabling
import ClientGen.Proofs.Operation.Enabling
import ClientGen.Proofs.Client.Calls
import ClientGen.Proofs.Client.Bodies
import ClientGen.Proofs.Build.Repeating
import ClientGen.Proofs.Client.Comments
import ClientGen.Proofs.Client.ForeignReferences
import ClientGen.Proofs.Document.Json.RoundTrip
import ClientGen.Proofs.CommandLine.Emitting
import ClientGen.Proofs.Document.Chain
import ClientGen.Proofs.Schema.Readable
import ClientGen.Proofs.Operation.Redeclaring
import ClientGen.Proofs.Operation.Responses
import ClientGen.Proofs.Document.Pointer.Conformance
import ClientGen.Proofs.PathTemplate.RoundTrip
import ClientGen.Proofs.Document.Frame
import ClientGen.Proofs.Operation.Assignment
import ClientGen.Proofs.Schema.Alike
import ClientGen.Proofs.Text.Capitals
import ClientGen.Proofs.Operation.ConstructedTypes
import ClientGen.Proofs.Client.ModuleNames
import ClientGen.Proofs.Client.Documentation
import ClientGen.Proofs.Client.CoroutineDocs
import ClientGen.Proofs.Client.Literals
import ClientGen.Proofs.Document.Nulls
import ClientGen.Proofs.Settings.Precedence
