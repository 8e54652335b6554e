import MediaPairing.Text.Utf8
import MediaPairing.Text.Blank
import MediaPairing.Text.Quoted
import MediaPairing.Text.Word
import MediaPairing.Text.CaseFold
import MediaPairing.Path
import MediaPairing.Errno
import MediaPairing.DeviceNumber
import MediaPairing.FourCc
import MediaPairing.Capability
import MediaPairing.Interface
import MediaPairing.PixelFormat
import MediaPairing.KernelRecord
import MediaPairing.LogRecord
import MediaPairing.Probe
import MediaPairing.Resolve
import MediaPairing.System
import MediaPairing.Formats
import MediaPairing.Devnode
import MediaPairing.Machine.Access
import MediaPairing.Machine.System
import MediaPairing.DeviceTree
import MediaPairing.Session
import MediaPairing.Machine.Trace
import MediaPairing.Machine.Session
import MediaPairing.Pattern.Parse
import MediaPairing.Main
import MediaPairing.Proofs.Text.Encoding
import MediaPairing.Proofs.Machine.Run
import MediaPairing.Proofs.Machine.Events
import MediaPairing.Proofs.Machine.Backend
import MediaPairing.Proofs.Machine.Record
import MediaPairing.Proofs.Machine.RoundTrip
import MediaPairing.Proofs.Device.InterfaceKinds
import MediaPairing.Proofs.Device.NodeFlags
import MediaPairing.Proofs.Discovery.Opening
import MediaPairing.Proofs.Discovery.Candidates
import MediaPairing.Proofs.Discovery.Readout
import MediaPairing.Proofs.Discovery.TopologyReading
import MediaPairing.Proofs.Discovery.Steps
import MediaPairing.Proofs.Discovery.Descriptors
import MediaPairing.Proofs.Discovery.Custody
import MediaPairing.Proofs.Discovery.Probing
import MediaPairing.Proofs.Discovery.Resolving
import MediaPairing.Proofs.Discovery.Sights
import MediaPairing.Proofs.Discovery.Calls
import MediaPairing.Proofs.Discovery.History
import MediaPairing.Proofs.Discovery.Pairing
import MediaPairing.Proofs.Discovery.FormatReadout
import MediaPairing.Proofs.Discovery.Enumeration
import MediaPairing.Proofs.Discovery.Agreement
import MediaPairing.Proofs.Discovery.UniqueOwner
import MediaPairing.Proofs.Discovery.OtherFiles
import MediaPairing.Proofs.Command.Report
import MediaPairing.Proofs.Command.FormatReport
import MediaPairing.Proofs.Command.Cleanup
import MediaPairing.Proofs.Command.Narrowing
import MediaPairing.Proofs.Command.NodeNames
import MediaPairing.Proofs.Command.OfferedFormats
import MediaPairing.Proofs.Machine.NodeIdentity
import MediaPairing.Proofs.Discovery.Publication
import MediaPairing.Proofs.Pattern.Positions
import MediaPairing.Proofs.Devnode.Description
import MediaPairing.Proofs.Devnode.Lookup
import MediaPairing.Proofs.Text.FormatCode
import MediaPairing.Proofs.Text.PaddedText
import MediaPairing.Proofs.DeviceTree.Counters
import MediaPairing.Proofs.Discovery.OwnEvents
import MediaPairing.Proofs.Discovery.Accounts
import MediaPairing.Proofs.Discovery.ProbeLog
import MediaPairing.Proofs.Discovery.SearchLog
