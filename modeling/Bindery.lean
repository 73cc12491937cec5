import Bindery.Main
import Bindery.Sample
import Bindery.Proofs.Distinct
import Bindery.Proofs.Graph
import Bindery.Proofs.Run
import Bindery.Proofs.Chain
import Bindery.Proofs.Closure
import Bindery.Proofs.Contract
import Bindery.Proofs.Overlay
import Bindery.Proofs.Rename
import Bindery.Proofs.Idempotence
import Bindery.Proofs.Mixin
import Bindery.Proofs.Walk
import Bindery.Proofs.Ancestors
import Bindery.Proofs.Failure
import Bindery.Proofs.Protocol
import Bindery.Proofs.Independence
import Bindery.Proofs.Passes
import Bindery.Proofs.Database
import Bindery.Proofs.Supertypes
import Bindery.Proofs.Files
import Bindery.Proofs.Targets
import Bindery.Proofs.Merge
import Bindery.Proofs.Filter
import Bindery.Proofs.Path
import Bindery.Proofs.Placement
import Bindery.Proofs.Permutation
import Bindery.Proofs.Binding
import Bindery.Proofs.Key
import Bindery.Proofs.Capability
import Bindery.Proofs.Overload
import Bindery.Proofs.Repetition
import Bindery.Proofs.Superclass
import Bindery.Proofs.Qualified
import Bindery.Proofs.Composition
import Bindery.Proofs.Exception
import Bindery.Proofs.Expansion
import Bindery.Proofs.Accessor
import Bindery.Proofs.Reference
import Bindery.Proofs.Lineage
import Bindery.Proofs.Resolution
import Bindery.Proofs.Factory
