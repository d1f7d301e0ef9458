import StubLinker.CommandLine.Tool
import StubLinker.Main
import StubLinker.Proofs.Archive.RoundTrip
import StubLinker.Proofs.Build.Abort
import StubLinker.Proofs.Build.Action
import StubLinker.Proofs.Build.Apply
import StubLinker.Proofs.Build.Clear
import StubLinker.Proofs.Build.Counts
import StubLinker.Proofs.Build.Difference
import StubLinker.Proofs.Build.Directory
import StubLinker.Proofs.Build.Failure
import StubLinker.Proofs.Build.Fresh
import StubLinker.Proofs.Build.Full
import StubLinker.Proofs.Build.History
import StubLinker.Proofs.Build.Incremental
import StubLinker.Proofs.Build.Jar
import StubLinker.Proofs.Build.Ready
import StubLinker.Proofs.Build.Record
import StubLinker.Proofs.Build.Reuse
import StubLinker.Proofs.Build.Saved
import StubLinker.Proofs.Build.Settings
import StubLinker.Proofs.Build.Spared
import StubLinker.Proofs.Build.State
import StubLinker.Proofs.Build.Summary
import StubLinker.Proofs.Build.UpToDate
import StubLinker.Proofs.ClassFile.Added
import StubLinker.Proofs.ClassFile.Lowering
import StubLinker.Proofs.ClassFile.Pool
import StubLinker.Proofs.ClassFile.Reference
import StubLinker.Proofs.ClassFile.Request
import StubLinker.Proofs.ClassFile.Sharing
import StubLinker.Proofs.ClassFile.Symbol
import StubLinker.Proofs.Disk.Above
import StubLinker.Proofs.Disk.Between
import StubLinker.Proofs.Disk.Effect
import StubLinker.Proofs.Disk.Emptied
import StubLinker.Proofs.Disk.Fits
import StubLinker.Proofs.Disk.Folder
import StubLinker.Proofs.Disk.Path
import StubLinker.Proofs.Disk.Prune
import StubLinker.Proofs.Disk.Resolve
import StubLinker.Proofs.Disk.Session
import StubLinker.Proofs.Disk.Tidy
import StubLinker.Proofs.Disk.Writing
import StubLinker.Proofs.JavaType.BinaryName
import StubLinker.Proofs.JavaType.Blame
import StubLinker.Proofs.JavaType.Cursor
import StubLinker.Proofs.JavaType.Display
import StubLinker.Proofs.JavaType.Grammar
import StubLinker.Proofs.JavaType.WellFormed
import StubLinker.Proofs.Json.Object
import StubLinker.Proofs.Link.Added
import StubLinker.Proofs.Link.Frame
import StubLinker.Proofs.Link.Listing
import StubLinker.Proofs.Link.Outcome
import StubLinker.Proofs.Link.Reading
import StubLinker.Proofs.Link.Refinement
import StubLinker.Proofs.Link.Regrouping
import StubLinker.Proofs.Link.Relink
import StubLinker.Proofs.Link.Summary
import StubLinker.Proofs.Report.Grouped
import StubLinker.Proofs.Report.Order
import StubLinker.Proofs.Report.Scan
import StubLinker.Proofs.SortedMap
import StubLinker.Proofs.Stub.Admission
import StubLinker.Proofs.Stub.Depth
import StubLinker.Proofs.Stub.Lowered
import StubLinker.Proofs.Stub.Machine
import StubLinker.Proofs.Stub.Names
import StubLinker.Proofs.Stub.Plan
import StubLinker.Proofs.Stub.Sizes
import StubLinker.Proofs.Stub.Target
import StubLinker.Proofs.Stub.Verified
import StubLinker.Proofs.Text.ByteOrder
