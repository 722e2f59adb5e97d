import Stencil.Main
import Stencil.Store.Listing
import Stencil.Proofs.Planning.Failure
import Stencil.Proofs.Path.Steps
import Stencil.Proofs.Store.Walk
import Stencil.Proofs.Store.Change
import Stencil.Proofs.Store.Place
import Stencil.Proofs.Store.Way
import Stencil.Proofs.Execution.Install
import Stencil.Proofs.Execution.Run
import Stencil.Proofs.Execution.Again
import Stencil.Proofs.Execution.Placement
import Stencil.Proofs.Layout
import Stencil.Proofs.Execution.Pretence
import Stencil.Proofs.Execution.Repetition
import Stencil.Proofs.Execution.Targets
import Stencil.Proofs.Execution.Refusal
import Stencil.Proofs.Execution.Independence
import Stencil.Proofs.Definition.Grammar
import Stencil.Proofs.Definition.Display
import Stencil.Proofs.Planning.Verdict
import Stencil.Proofs.Mutation.Pieces
import Stencil.Proofs.Naming.TypeName
import Stencil.Proofs.Planning.ModelType
import Stencil.Proofs.Execution.Renewal
import Stencil.Proofs.Path.Inside
import Stencil.Proofs.Execution.Stub
import Stencil.Proofs.Execution.Hindrance
import Stencil.Proofs.Session
import Stencil.Proofs.CommandLine.Phrase
import Stencil.Proofs.Naming.Letters
import Stencil.Proofs.Planning.TargetType
import Stencil.Proofs.Mutation.Tests
import Stencil.Proofs.Path.Components
import Stencil.Proofs.Execution.Entries
import Stencil.Proofs.Report
import Stencil.Proofs.Execution.Chronicle
import Stencil.Proofs.Record
import Stencil.Proofs.Planning.Interleaving
