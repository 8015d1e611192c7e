import FirmwareDisk.Machine.Override
import FirmwareDisk.Backend.Shelf
import FirmwareDisk.Backend.Sum
import FirmwareDisk.Registry
import FirmwareDisk.Main
import FirmwareDisk.Proofs.Action
import FirmwareDisk.Proofs.Medium.Flat
import FirmwareDisk.Proofs.Medium.Requests
import FirmwareDisk.Proofs.Firmware.Packet
import FirmwareDisk.Proofs.Geometry.Address
import FirmwareDisk.Proofs.Machine.Transfers
import FirmwareDisk.Proofs.Machine.Overflow
import FirmwareDisk.Proofs.Staging
import FirmwareDisk.Proofs.Transfer.Attempts
import FirmwareDisk.Proofs.Transfer.Descents
import FirmwareDisk.Proofs.Geometry.Cache
import FirmwareDisk.Proofs.Geometry.Probe
import FirmwareDisk.Proofs.Machine.Queries
import FirmwareDisk.Proofs.Session.Drives
import FirmwareDisk.Proofs.Session.Reads
import FirmwareDisk.Proofs.Session.Writes
import FirmwareDisk.Proofs.Firmware.Transcript
import FirmwareDisk.Proofs.Transfer.Trails
import FirmwareDisk.Proofs.Geometry.Soundness
import FirmwareDisk.Proofs.Transfer.Soundness
import FirmwareDisk.Proofs.Session.Soundness
import FirmwareDisk.Proofs.Session.Operations
import FirmwareDisk.Proofs.Session.Simulation
import FirmwareDisk.Proofs.Session.Carrying
import FirmwareDisk.Proofs.Session.Confinement
import FirmwareDisk.Proofs.Machine.Order
import FirmwareDisk.Proofs.Transfer.Confinement
import FirmwareDisk.Proofs.Transfer.Acceptance
import FirmwareDisk.Proofs.Transfer.Learning
import FirmwareDisk.Proofs.Session.Learning
import FirmwareDisk.Proofs.Transfer.Absorption
import FirmwareDisk.Proofs.Session.Absorption
import FirmwareDisk.Proofs.Transfer.Optical
import FirmwareDisk.Proofs.Session.Optical
import FirmwareDisk.Proofs.BlockDevice
import FirmwareDisk.Proofs.Medium.Readable
import FirmwareDisk.Proofs.Raid.Search
import FirmwareDisk.Proofs.Raid.Detection
import FirmwareDisk.Proofs.Raid.Mirrors
import FirmwareDisk.Proofs.Raid.Opened
import FirmwareDisk.Proofs.Transfer.Lowering
import FirmwareDisk.Proofs.Transfer.Reading
import FirmwareDisk.Proofs.Transfer.Steady
import FirmwareDisk.Proofs.Session.Steps
import FirmwareDisk.Proofs.Session.Caching
import FirmwareDisk.Proofs.Session.Mirroring
import FirmwareDisk.Proofs.Agreement
import FirmwareDisk.Proofs.Transfer.Agreement
import FirmwareDisk.Proofs.Geometry.Agreement
import FirmwareDisk.Proofs.Machine.Agreement
import FirmwareDisk.Proofs.Session.Agreement
import FirmwareDisk.Proofs.Session.Independence
import FirmwareDisk.Proofs.Raid.Chronology
import FirmwareDisk.Proofs.Backend.Calls
import FirmwareDisk.Proofs.Registry.Routing
import FirmwareDisk.Proofs.Medium.Sparse
import FirmwareDisk.Proofs.Medium.Dense
import FirmwareDisk.Proofs.Transfer.Calm
import FirmwareDisk.Proofs.Geometry.Fixed
import FirmwareDisk.Proofs.Session.Sizes
import FirmwareDisk.Proofs.Geometry.Translation
import FirmwareDisk.Proofs.Raid.Footprint
import FirmwareDisk.Proofs.Geometry.Refinement
import FirmwareDisk.Proofs.Geometry.Inquiry
import FirmwareDisk.Proofs.Geometry.Resolution
import FirmwareDisk.Proofs.Session.Guards
import FirmwareDisk.Proofs.Session.Enumeration
import FirmwareDisk.Proofs.Session.Arithmetic
import FirmwareDisk.Proofs.Medium.Images
import FirmwareDisk.Proofs.Machine.Atomicity
import FirmwareDisk.Proofs.Medium.Runs
import FirmwareDisk.Proofs.Survey.Assembly
import FirmwareDisk.Proofs.DriveNumber
import FirmwareDisk.Proofs.Backend.Offerings
import FirmwareDisk.Proofs.Registry.Dispatch
import FirmwareDisk.Proofs.Survey.Examination
import FirmwareDisk.Proofs.Survey.Devices
import FirmwareDisk.Proofs.Geometry.Stamping
import FirmwareDisk.Proofs.Geometry.History
