import LaneKernels.EntryPoint
import LaneKernels.Main
import LaneKernels.Proofs.Generation.Planning
import LaneKernels.Proofs.Kernels.Elements
import LaneKernels.Proofs.Kernels.PackedLanes
import LaneKernels.Proofs.Kernels.LaneArithmetic
import LaneKernels.Proofs.Kernels.Runs
import LaneKernels.Proofs.Kernels.Acceleration
import LaneKernels.Proofs.Kernels.Dispatch
import LaneKernels.Proofs.Generation.Rendering
import LaneKernels.Proofs.Generation.AllOrNothing
import LaneKernels.Proofs.Generation.Agreement
import LaneKernels.Proofs.Generation.Removal
import LaneKernels.Proofs.Inventory.LineBreaks
import LaneKernels.Proofs.Inventory.Reading
import LaneKernels.Proofs.Inventory.Names
import LaneKernels.Proofs.Inventory.Items
import LaneKernels.Proofs.Inventory.Texts
import LaneKernels.Proofs.Inventory.Mentions
import LaneKernels.Proofs.Inventory.Consistency
import LaneKernels.Proofs.Regions.Bodies
import LaneKernels.Proofs.Regions.Locality
import LaneKernels.Proofs.Output.Places
import LaneKernels.Proofs.Output.Effects
import LaneKernels.Proofs.Output.Stages
import LaneKernels.Proofs.Output.Failure
import LaneKernels.Proofs.Output.Interleaving
import LaneKernels.Proofs.Output.ExitCode
import LaneKernels.Proofs.Kernels.Accesses
import LaneKernels.Proofs.Kernels.Crashes
import LaneKernels.Proofs.Generation.FirstDefect
import LaneKernels.Proofs.Regions.Narrowing
import LaneKernels.Proofs.Selection.Grammar
import LaneKernels.Proofs.Shape.Brackets
import LaneKernels.Proofs.Shape.Margins
import LaneKernels.Proofs.Shape.Texts
import LaneKernels.Proofs.Selection.Environment
import LaneKernels.Proofs.Output.Destinations
import LaneKernels.Proofs.Matrix.Rows
import LaneKernels.Proofs.Regions.LockStep
import LaneKernels.Proofs.Shape.Flattening
import LaneKernels.Proofs.Kernels.WidestVariant
import LaneKernels.Proofs.Kernels.Indices
import LaneKernels.Proofs.Kernels.RecentStores
import LaneKernels.Proofs.Shape.Documentation
import LaneKernels.Proofs.Code.Texts
import LaneKernels.Proofs.Code.Kernels
import LaneKernels.Proofs.Code.References
import LaneKernels.Proofs.Code.EntryPoints
import LaneKernels.Proofs.Pattern.Search
import LaneKernels.Proofs.Pattern.CharSet
import LaneKernels.Proofs.Pattern.Forms
import LaneKernels.Proofs.Pattern.Classes
import LaneKernels.Proofs.Pattern.Meaning
import LaneKernels.Proofs.Pattern.Reading
import LaneKernels.Proofs.Pattern.Ordinary
import LaneKernels.Proofs.Log.Filter
import LaneKernels.Proofs.CommandLine.Standard
