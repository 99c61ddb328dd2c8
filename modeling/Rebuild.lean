import Rebuild.Main
import Rebuild.Rehearsal
import Rebuild.Rule.Printer
import Rebuild.Proofs.Build.RebuildSet
import Rebuild.Proofs.Build.Resumption
import Rebuild.Proofs.Build.CleanBuild
import Rebuild.Proofs.Build.Repetition
import Rebuild.Proofs.Rule.Grammar
import Rebuild.Proofs.Composition
import Rebuild.Proofs.Rule.Printing
import Rebuild.Proofs.Build.Trace
import Rebuild.Proofs.Build.AfterFailure
import Rebuild.Proofs.Build.Propagation
import Rebuild.Proofs.Build.Locality
import Rebuild.Proofs.Rule.Loading
import Rebuild.Proofs.Build.Refusal
import Rebuild.Proofs.Listing
import Rebuild.Proofs.Build.Presence
import Rebuild.Proofs.Rule.Checking
import Rebuild.Proofs.Graph.Dependents
import Rebuild.Proofs.Graph.States
import Rebuild.Proofs.Rule.Edges
import Rebuild.Proofs.Path
import Rebuild.Proofs.Edits
import Rebuild.Proofs.Build.Decision
import Rebuild.Proofs.Arguments
import Rebuild.Proofs.Program
import Rebuild.Proofs.Machine
import Rebuild.Proofs.Copies
import Rebuild.Proofs.Shell.Pattern
import Rebuild.Proofs.Text.Regex
import Rebuild.Proofs.Text.Utf8
