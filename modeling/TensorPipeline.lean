import TensorPipeline.Allocator
import TensorPipeline.Batch.Stack
import TensorPipeline.Batch.Stage
import TensorPipeline.Bytes
import TensorPipeline.Checkpoint.Manager
import TensorPipeline.Checkpoint.Path
import TensorPipeline.Checkpoint.Volume
import TensorPipeline.Digest
import TensorPipeline.Error
import TensorPipeline.Iterator
import TensorPipeline.Json.Basic
import TensorPipeline.Json.Document
import TensorPipeline.Json.Reader
import TensorPipeline.Json.Text
import TensorPipeline.Json.Writer
import TensorPipeline.Model
import TensorPipeline.Naming
import TensorPipeline.Pipeline.Advance
import TensorPipeline.Pipeline.Basic
import TensorPipeline.Pipeline.Cardinality
import TensorPipeline.Pipeline.Cursor
import TensorPipeline.Pipeline.Saved
import TensorPipeline.Pipeline.TensorSource
import TensorPipeline.Plan
import TensorPipeline.Pool
import TensorPipeline.Proofs.Cardinality
import TensorPipeline.Proofs.Checkpoint.Damage
import TensorPipeline.Proofs.Checkpoint.Directory
import TensorPipeline.Proofs.Checkpoint.FileNames
import TensorPipeline.Proofs.Checkpoint.Listing
import TensorPipeline.Proofs.Checkpoint.Recovery
import TensorPipeline.Proofs.Checkpoint.Retention
import TensorPipeline.Proofs.Concatenation
import TensorPipeline.Proofs.Counting
import TensorPipeline.Proofs.Crashes
import TensorPipeline.Proofs.Delivery
import TensorPipeline.Proofs.FailStop
import TensorPipeline.Proofs.ForeignSaves
import TensorPipeline.Proofs.Inference
import TensorPipeline.Proofs.Json.Documents
import TensorPipeline.Proofs.Json.Reading
import TensorPipeline.Proofs.Keys
import TensorPipeline.Proofs.Layers
import TensorPipeline.Proofs.Memoryless
import TensorPipeline.Proofs.Nesting
import TensorPipeline.Proofs.PartialShapes
import TensorPipeline.Proofs.Plans
import TensorPipeline.Proofs.Promises
import TensorPipeline.Proofs.PullCounts
import TensorPipeline.Proofs.RepeatedSaves
import TensorPipeline.Proofs.Requests
import TensorPipeline.Proofs.Restoring
import TensorPipeline.Proofs.Resumption
import TensorPipeline.Proofs.Runs
import TensorPipeline.Proofs.Segmentation
import TensorPipeline.Proofs.SharedCalls
import TensorPipeline.Proofs.Simulation
import TensorPipeline.Proofs.Stacking.AtOnce
import TensorPipeline.Proofs.Stacking.Buffers
import TensorPipeline.Proofs.Stacking.Columns
import TensorPipeline.Proofs.Stacking.Copies
import TensorPipeline.Proofs.Stacking.InTurn
import TensorPipeline.Proofs.Stacking.Placed
import TensorPipeline.Proofs.Stacking.Sizes
import TensorPipeline.Proofs.Tallies
import TensorPipeline.Proofs.Transparency
import TensorPipeline.Proofs.Values
import TensorPipeline.Proofs.WellFormed
import TensorPipeline.Proofs.Wire.Canonical
import TensorPipeline.Proofs.Wire.RoundTrip
import TensorPipeline.Store
import TensorPipeline.Table
import TensorPipeline.Tensor.Allocation
import TensorPipeline.Tensor.Basic
import TensorPipeline.Tensor.DType
import TensorPipeline.Tensor.PartialShape
import TensorPipeline.Tensor.Shape
import TensorPipeline.Text.GraphemeExtend
import TensorPipeline.Text.Quoted
import TensorPipeline.Text.Unprintable
import TensorPipeline.Usage
import TensorPipeline.Wire.Snapshot
import TensorPipeline.Wire.Varint
