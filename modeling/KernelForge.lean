import KernelForge.Act
import KernelForge.Argument.Basic
import KernelForge.Bench.Benchmark
import KernelForge.Bench.Supply
import KernelForge.Bench.Timing
import KernelForge.Binary.Arithmetic
import KernelForge.Binary.Format
import KernelForge.Binary.Shortest
import KernelForge.DType
import KernelForge.DeviceError
import KernelForge.Digest.Sha256
import KernelForge.Disk.Cause
import KernelForge.Disk.Files
import KernelForge.Disk.Path
import KernelForge.Disk.Scratch
import KernelForge.Disk.Tree
import KernelForge.Disk.Walk
import KernelForge.Event
import KernelForge.Host
import KernelForge.Kernel.Basic
import KernelForge.Kernel.Invoke
import KernelForge.Kernel.Options
import KernelForge.Kernel.Signature
import KernelForge.KernelError
import KernelForge.Native.Call
import KernelForge.Native.Entry
import KernelForge.Native.Library
import KernelForge.Native.Loader
import KernelForge.Process
import KernelForge.Proofs.Act
import KernelForge.Proofs.Argument.Groups
import KernelForge.Proofs.Argument.Normal
import KernelForge.Proofs.Argument.Reassembly
import KernelForge.Proofs.Bench.Accounting
import KernelForge.Proofs.Bench.Statistics
import KernelForge.Proofs.Bench.Supplying
import KernelForge.Proofs.Binary.Truncation
import KernelForge.Proofs.Disk.Absolute
import KernelForge.Proofs.Disk.Alike
import KernelForge.Proofs.Disk.Ancestors
import KernelForge.Proofs.Disk.Joined
import KernelForge.Proofs.Disk.Leading
import KernelForge.Proofs.Disk.Locations
import KernelForge.Proofs.Disk.Naming
import KernelForge.Proofs.Disk.Operations
import KernelForge.Proofs.Disk.Scratch
import KernelForge.Proofs.Disk.Segments
import KernelForge.Proofs.Disk.Ways
import KernelForge.Proofs.Disk.WellFormed
import KernelForge.Proofs.Fleet.Invoking
import KernelForge.Proofs.Fleet.Lives
import KernelForge.Proofs.Fleet.Once
import KernelForge.Proofs.Fleet.Provenance
import KernelForge.Proofs.Fleet.Running
import KernelForge.Proofs.Kernel.Additions
import KernelForge.Proofs.Kernel.BestEffort
import KernelForge.Proofs.Kernel.Calls
import KernelForge.Proofs.Kernel.Coincidence
import KernelForge.Proofs.Kernel.FailedPreparation
import KernelForge.Proofs.Kernel.Flatness
import KernelForge.Proofs.Kernel.Hits
import KernelForge.Proofs.Kernel.Invoking
import KernelForge.Proofs.Kernel.Lives
import KernelForge.Proofs.Kernel.Making
import KernelForge.Proofs.Kernel.Operating
import KernelForge.Proofs.Kernel.Preparation
import KernelForge.Proofs.Kernel.Results
import KernelForge.Proofs.Kernel.Settling
import KernelForge.Proofs.Native.Blame
import KernelForge.Proofs.Native.Convention
import KernelForge.Proofs.Native.Decoding
import KernelForge.Proofs.Native.Loading
import KernelForge.Proofs.Native.Locking
import KernelForge.Proofs.Native.Scatter
import KernelForge.Proofs.Store.AllOrNothing
import KernelForge.Proofs.Store.Framing
import KernelForge.Proofs.Store.Names
import KernelForge.Proofs.Store.Publishing
import KernelForge.Proofs.Store.Separation
import KernelForge.Proofs.Store.Settled
import KernelForge.Proofs.Store.Twice
import KernelForge.Proofs.Store.Writing
import KernelForge.Proofs.Target.Building
import KernelForge.Proofs.Target.Executing
import KernelForge.Proofs.Target.Placement
import KernelForge.Proofs.Target.Recovery
import KernelForge.Proofs.Target.Twice
import KernelForge.Proofs.Tensor.Acceptance
import KernelForge.Proofs.Tensor.Copies
import KernelForge.Proofs.Tensor.Filling
import KernelForge.Proofs.Tensor.Handles
import KernelForge.Proofs.Text.Occurrences
import KernelForge.Proofs.Text.Reading
import KernelForge.Proofs.Text.Spelling
import KernelForge.Proofs.Tool.Anchored
import KernelForge.Proofs.Tool.Computing
import KernelForge.Proofs.Tool.Confined
import KernelForge.Proofs.Tool.Declarations
import KernelForge.Proofs.Tool.Extraction
import KernelForge.Proofs.Tool.Ledger
import KernelForge.Proofs.Tool.Nearest
import KernelForge.Proofs.Tool.Order
import KernelForge.Proofs.Tool.Processes
import KernelForge.Proofs.Tool.Searched
import KernelForge.Shell.Arithmetic
import KernelForge.Shell.Bucket
import KernelForge.Shell.Builtin
import KernelForge.Shell.Child
import KernelForge.Shell.Condition
import KernelForge.Shell.Decimal
import KernelForge.Shell.Directories
import KernelForge.Shell.Expansion
import KernelForge.Shell.Fields
import KernelForge.Shell.Format
import KernelForge.Shell.Inquiry
import KernelForge.Shell.Job
import KernelForge.Shell.Lookup
import KernelForge.Shell.Mask
import KernelForge.Shell.Nesting
import KernelForge.Shell.Number
import KernelForge.Shell.Options
import KernelForge.Shell.Pattern
import KernelForge.Shell.Program
import KernelForge.Shell.Quotation
import KernelForge.Shell.Reader
import KernelForge.Shell.Redirection
import KernelForge.Shell.Removal
import KernelForge.Shell.Run
import KernelForge.Shell.Scan
import KernelForge.Shell.Script
import KernelForge.Shell.Session
import KernelForge.Shell.Signal
import KernelForge.Shell.Source
import KernelForge.Shell.Stream
import KernelForge.Shell.Supervision
import KernelForge.Shell.Switch
import KernelForge.Shell.Trim
import KernelForge.Shell.Words
import KernelForge.Shell.Writing
import KernelForge.Store.Basic
import KernelForge.Store.Key
import KernelForge.Target.Adapter
import KernelForge.Target.Basic
import KernelForge.Target.Source
import KernelForge.Tensor.Basic
import KernelForge.Tensor.Element
import KernelForge.Tensor.Heap
import KernelForge.Text.Blank
import KernelForge.Text.Bytes
import KernelForge.Text.Find
import KernelForge.Text.Hidden
import KernelForge.Text.Quoted
import KernelForge.Text.Utf8
import KernelForge.Tool.Config
import KernelForge.Tool.Header
import KernelForge.Tool.Lookup
import KernelForge.Tool.Request
import KernelForge.Tool.Toolchain
