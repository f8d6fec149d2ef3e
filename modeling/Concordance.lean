import Concordance.Main
import Concordance.Registry.Lookup
import Concordance.Proofs.Json.Numeral
import Concordance.Proofs.Json.Quoted
import Concordance.Proofs.Json.Tree
import Concordance.Proofs.Json.Codec
import Concordance.Proofs.Json.Layout
import Concordance.Proofs.Member.Format
import Concordance.Proofs.Registry.Format
import Concordance.Proofs.FileTree
import Concordance.Proofs.Snapshot
import Concordance.Proofs.Extraction.Step
import Concordance.Proofs.Override.Merge
import Concordance.Proofs.Override.Balance
import Concordance.Proofs.Override.History
import Concordance.Proofs.Cil.Grammar
import Concordance.Proofs.Cil.Header
import Concordance.Proofs.Cil.Format
import Concordance.Proofs.Binding
import Concordance.Proofs.Json.Depth
import Concordance.Proofs.Json.Yields
import Concordance.Proofs.Json.Tagged
import Concordance.Proofs.Compiled.Format
import Concordance.Proofs.Documents
import Concordance.Proofs.Member.Nesting
import Concordance.Proofs.Compiled.Nesting
import Concordance.Proofs.Registry.Nesting
import Concordance.Proofs.Extraction.Provenance
import Concordance.Proofs.Resolution.Join
import Concordance.Proofs.Extraction.Nesting
import Concordance.Proofs.Registry.Index
import Concordance.Proofs.Registry.Lossless
import Concordance.Proofs.Registry.Filing
import Concordance.Proofs.Extraction.Filing
import Concordance.Proofs.Resolution.Pairing
import Concordance.Proofs.Extraction.NestedEnum
import Concordance.Proofs.Registry.Invariant
import Concordance.Proofs.Extraction.Publishing
import Concordance.Proofs.Extraction.Order
import Concordance.Proofs.Extraction.Itinerary
import Concordance.Proofs.Resolution.Publishing
import Concordance.Proofs.Registry.Pruning
import Concordance.Proofs.Override.Answers
import Concordance.Proofs.Override.Independence
import Concordance.Proofs.Extraction.Shadows
import Concordance.Proofs.Resolution.Naming
import Concordance.Proofs.Registry.Naming
import Concordance.Proofs.Registry.MethodLookup
import Concordance.Proofs.Extraction.Tracking
import Concordance.Proofs.Tracking
import Concordance.Proofs.Resolution.Accounting
import Concordance.Proofs.Recovery
import Concordance.Proofs.Cil.Step
import Concordance.Proofs.Cil.Cursor
import Concordance.Proofs.Cil.Decoding
import Concordance.Proofs.Cil.Composition
import Concordance.Proofs.Resolution.Constants
import Concordance.Proofs.Extraction.Owner
import Concordance.Proofs.MemberName
import Concordance.Proofs.Resolution.Members
import Concordance.Proofs.Extraction.Globals
import Concordance.Proofs.Member.Draft
import Concordance.Proofs.TypeRef
import Concordance.Proofs.Saving
import Concordance.Proofs.Extraction.Job
import Concordance.Proofs.VirtualPath
