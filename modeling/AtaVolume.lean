import AtaVolume.Main
import AtaVolume.Proofs.Bytes.Words
import AtaVolume.Proofs.Bytes.Runs
import AtaVolume.Proofs.Bytes.Sectors
import AtaVolume.Proofs.Media.Content
import AtaVolume.Proofs.Ata.Steps
import AtaVolume.Proofs.Checks
import AtaVolume.Proofs.Ata.Simulation
import AtaVolume.Proofs.Bus.Ports
import AtaVolume.Proofs.Bus.Polling
import AtaVolume.Proofs.Bus.DataPort
import AtaVolume.Proofs.Text.Utf8
import AtaVolume.Proofs.Bus.Identification
import AtaVolume.Proofs.Bus.Commands
import AtaVolume.Proofs.Bus.Storing
import AtaVolume.Proofs.Bus.Obstacles
import AtaVolume.Proofs.Bus.Writing
import AtaVolume.Proofs.Device.Ranges
import AtaVolume.Proofs.Bus.Reading
import AtaVolume.Proofs.Bus.ReadBack
import AtaVolume.Proofs.Volume.Records
import AtaVolume.Proofs.Volume.Layout
import AtaVolume.Proofs.Volume.Bitmap
import AtaVolume.Proofs.Volume.Table
import AtaVolume.Proofs.Device.Stores
import AtaVolume.Proofs.Volume.Contents
import AtaVolume.Proofs.Volume.Performs
import AtaVolume.Proofs.Volume.Parts
import AtaVolume.Proofs.Volume.Files
import AtaVolume.Proofs.Volume.Calls
import AtaVolume.Proofs.Volume.FileMap
import AtaVolume.Proofs.Volume.Sessions
import AtaVolume.Proofs.Bus.DiskStores
import AtaVolume.Proofs.Volume.Refinement
import AtaVolume.Proofs.Device.Flaky
import AtaVolume.Proofs.Volume.Faults
import AtaVolume.Proofs.Volume.Alike
import AtaVolume.Proofs.Bus.Leftovers
import AtaVolume.Proofs.Bus.Enumeration
import AtaVolume.Proofs.Volume.Isolation
import AtaVolume.Proofs.Ata.Protocol
import AtaVolume.Proofs.Ata.Conformance
import AtaVolume.Proofs.Volume.Areas
import AtaVolume.Proofs.Exact.Layout
import AtaVolume.Proofs.Exact.Bitmap
import AtaVolume.Proofs.Exact.Calls
import AtaVolume.Proofs.Device.Serving
import AtaVolume.Proofs.Device.Vouching
import AtaVolume.Proofs.Device.Recorder
import AtaVolume.Proofs.Volume.Effects
import AtaVolume.Proofs.Volume.Images
import AtaVolume.Proofs.Volume.Allocation
import AtaVolume.Proofs.Volume.Consistency
import AtaVolume.Proofs.Volume.CleanSessions
import AtaVolume.Proofs.Volume.Overwriting
import AtaVolume.Proofs.Volume.Leaks
import AtaVolume.Proofs.Volume.NewVolume
import AtaVolume.Proofs.Bus.Refusals
import AtaVolume.Proofs.Bus.DiskServes
import AtaVolume.Proofs.Bus.DiskVouches
import AtaVolume.Proofs.Bus.Probing
import AtaVolume.Proofs.Bus.Coherence
import AtaVolume.Proofs.Exact.DataPort
import AtaVolume.Proofs.Bus.Traffic
import AtaVolume.Proofs.Machine.Config
import AtaVolume.Proofs.Machine.Boot
import AtaVolume.Proofs.Exact.NewLayout
import AtaVolume.Proofs.Volume.Capacity
import AtaVolume.Proofs.Volume.AllocationEffect
import AtaVolume.Proofs.Volume.ReleaseEffect
import AtaVolume.Proofs.Volume.FailedCalls
import AtaVolume.Proofs.Volume.FormatCalls
import AtaVolume.Proofs.Volume.Undoing
import AtaVolume.Proofs.Ata.PollBudget
import AtaVolume.Proofs.Ata.Identify
import AtaVolume.Proofs.Ata.Arguments
import AtaVolume.Proofs.Volume.ReadOnly
import AtaVolume.Proofs.Volume.Inspection
import AtaVolume.Proofs.Volume.BlockSet
import AtaVolume.Proofs.Volume.Codec
import AtaVolume.Proofs.Volume.Persistence
import AtaVolume.Proofs.Device.ReadCalls
import AtaVolume.Proofs.Volume.Tally
import AtaVolume.Proofs.Volume.Occupancy
import AtaVolume.Proofs.Media.FileBytes
import AtaVolume.Proofs.Media.Interchange
import AtaVolume.Proofs.Text.Numeral
import AtaVolume.Proofs.Text.Words
import AtaVolume.Proofs.Bytes.HexDump
import AtaVolume.Proofs.Shell.Grammar
import AtaVolume.Proofs.Machine.DiskSpec
import AtaVolume.Proofs.Shell.Announcement
import AtaVolume.Proofs.Machine.Sharing
import AtaVolume.Proofs.Machine.Sessions
import AtaVolume.Proofs.Machine.Discovery
import AtaVolume.Proofs.Machine.Traffic
