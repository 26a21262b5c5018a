import FrameBatch.Act
import FrameBatch.Arguments
import FrameBatch.Config.Layers
import FrameBatch.Config.Load
import FrameBatch.Decoder.Basic
import FrameBatch.Decoder.Registry
import FrameBatch.Descriptor.Accept
import FrameBatch.Descriptor.Basic
import FrameBatch.Device
import FrameBatch.Engine.Backend
import FrameBatch.Engine.Basic
import FrameBatch.Engine.Factory
import FrameBatch.Engine.Onnx
import FrameBatch.Engine.OpenVino
import FrameBatch.Engine.Rehearsal
import FrameBatch.Engine.Script
import FrameBatch.Entries
import FrameBatch.Fault
import FrameBatch.Files.Archive
import FrameBatch.Files.Images
import FrameBatch.Files.Path
import FrameBatch.Files.Tree
import FrameBatch.Json.Reader
import FrameBatch.Location
import FrameBatch.Log.Journal
import FrameBatch.Log.Level
import FrameBatch.Log.SetUp
import FrameBatch.Main
import FrameBatch.Network
import FrameBatch.Number.Binary
import FrameBatch.Number.Decimal
import FrameBatch.Number.Format
import FrameBatch.Output
import FrameBatch.Pipeline.Basic
import FrameBatch.Pipeline.Cycle
import FrameBatch.Plate.Reading
import FrameBatch.Plate.Symbols
import FrameBatch.Recognition.Basic
import FrameBatch.Recognition.Run
import FrameBatch.Recognition.Settings
import FrameBatch.Result
import FrameBatch.Session
import FrameBatch.Tensor.Basic
import FrameBatch.Tensor.Bilinear
import FrameBatch.Tensor.Broadcast
import FrameBatch.Tensor.ElementType
import FrameBatch.Tensor.Gather
import FrameBatch.Tensor.Image
import FrameBatch.Tensor.Resizer
import FrameBatch.Tensor.Scalar
import FrameBatch.Tensor.Scale
import FrameBatch.Tensor.Slot
import FrameBatch.Tensor.TypeCode
import FrameBatch.Tensor.TypeName
import FrameBatch.Tensor.View
import FrameBatch.Text.Blank
import FrameBatch.Text.Case
import FrameBatch.Text.CaseTable
import FrameBatch.Text.DecimalDigit
import FrameBatch.Text.Numeral
import FrameBatch.Text.Printable
import FrameBatch.Text.Quoted
import FrameBatch.Text.Ranges
import FrameBatch.Text.Utf8
import FrameBatch.Timing.Stopwatch
import FrameBatch.Value.Arithmetic
import FrameBatch.Value.Basic
import FrameBatch.Value.Convert
import FrameBatch.Value.Record
import FrameBatch.Value.Text
import FrameBatch.Yaml.Cursor
import FrameBatch.Yaml.Lexer
import FrameBatch.Yaml.Load
import FrameBatch.Yaml.Mark
import FrameBatch.Yaml.Node
import FrameBatch.Yaml.Plain
import FrameBatch.Yaml.Property
import FrameBatch.Yaml.Scalar
import FrameBatch.Yaml.Token
import FrameBatch.Proofs.Act.Ends
import FrameBatch.Proofs.Pipeline.Bench
import FrameBatch.Proofs.Pipeline.Cycle
import FrameBatch.Proofs.Act.Fails
import FrameBatch.Proofs.Decoder.Builtin
import FrameBatch.Proofs.Descriptor.Accept
import FrameBatch.Proofs.Engine.Any
import FrameBatch.Proofs.Engine.Compliant
import FrameBatch.Proofs.Engine.OnnxRun
import FrameBatch.Proofs.Pipeline.Attach
import FrameBatch.Proofs.Pipeline.Capacity
import FrameBatch.Proofs.Pipeline.Conservation
import FrameBatch.Proofs.Pipeline.Finished
import FrameBatch.Proofs.Pipeline.Provenance
import FrameBatch.Proofs.Act.Blind
import FrameBatch.Proofs.Engine.Inputs
import FrameBatch.Proofs.Engine.Runs
import FrameBatch.Proofs.Pipeline.Atomic
import FrameBatch.Proofs.Pipeline.Executing
import FrameBatch.Proofs.Pipeline.Slots
import FrameBatch.Proofs.Tensor.Stamp
import FrameBatch.Proofs.Decoder.Prepared
import FrameBatch.Proofs.Engine.Functional
import FrameBatch.Proofs.Pipeline.Agreement
import FrameBatch.Proofs.Pipeline.Rounds
import FrameBatch.Proofs.Descriptor.Binding
import FrameBatch.Proofs.Decoder.Rows
import FrameBatch.Proofs.Pipeline.Batch
import FrameBatch.Proofs.Recognition.Measured
import FrameBatch.Proofs.Recognition.Course
import FrameBatch.Proofs.Recognition.Going
import FrameBatch.Proofs.Recognition.Opening
import FrameBatch.Proofs.Recognition.Retry
import FrameBatch.Proofs.Pipeline.Returns
import FrameBatch.Proofs.Recognition.Timing
import FrameBatch.Proofs.Recognition.Able
import FrameBatch.Proofs.Recognition.Complete
import FrameBatch.Proofs.Log.Calls
import FrameBatch.Proofs.Log.Silence
import FrameBatch.Proofs.Tensor.Planes
import FrameBatch.Proofs.Tensor.Nested
import FrameBatch.Proofs.Tensor.Loaded
import FrameBatch.Proofs.Number.Exact
import FrameBatch.Proofs.Number.Rounding
import FrameBatch.Proofs.Tensor.Bytes
import FrameBatch.Proofs.Tensor.Factors
import FrameBatch.Proofs.Descriptor.Bound
import FrameBatch.Proofs.Pipeline.Local
import FrameBatch.Proofs.Session.Independent
import FrameBatch.Proofs.Tensor.InPlace
import FrameBatch.Proofs.Decoder.Readings
import FrameBatch.Proofs.Descriptor.Refused
import FrameBatch.Proofs.Engine.Sized
import FrameBatch.Proofs.Act.Upholds
import FrameBatch.Proofs.Descriptor.Patching
import FrameBatch.Proofs.Engine.Fed
import FrameBatch.Proofs.Pipeline.Loadable
import FrameBatch.Proofs.Descriptor.Parts
import FrameBatch.Proofs.Engine.Reloaded
import FrameBatch.Proofs.Pipeline.Described
import FrameBatch.Proofs.Engine.Serial
import FrameBatch.Proofs.Engine.Mirrored
import FrameBatch.Proofs.Engine.Compiled
import FrameBatch.Proofs.Plate.License
import FrameBatch.Proofs.Engine.Retentive
import FrameBatch.Proofs.Decoder.Defined
import FrameBatch.Proofs.Act.Tame
import FrameBatch.Proofs.Engine.Freeing
import FrameBatch.Proofs.Pipeline.Freeing
import FrameBatch.Proofs.Recognition.Closing
import FrameBatch.Proofs.Output.Receiving
import FrameBatch.Proofs.Pipeline.Delivery
import FrameBatch.Proofs.Text.Case
import FrameBatch.Proofs.Engine.Provider
import FrameBatch.Proofs.Log.Lineage
import FrameBatch.Proofs.Log.SetUp
import FrameBatch.Proofs.Log.Sinks
import FrameBatch.Proofs.Log.Failing
import FrameBatch.Proofs.Config.Layers
import FrameBatch.Proofs.Config.Shelf
import FrameBatch.Proofs.Value.Record
import FrameBatch.Proofs.Files.Path
import FrameBatch.Proofs.Files.Place
import FrameBatch.Proofs.Files.Order
import FrameBatch.Proofs.Files.Archive
import FrameBatch.Proofs.Engine.ModelFolder
