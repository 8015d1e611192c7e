import FirmwareDisk.BlockDevice
import FirmwareDisk.Firmware.Packet
import FirmwareDisk.Firmware.Status
import FirmwareDisk.DriveNumber

set_option autoImplicit false

namespace FirmwareDisk

/-- A drive's shape as the legacy services report it, in counts. -/
structure DriveShape where
  cylinders : Nat
  heads : Nat
  sectors : Nat
deriving DecidableEq, Repr

/-- A firmware: one operation for each disk service that is relied on. Nothing is said of what a
service does. A state may answer as it likes, succeed without having moved anything, and leave
anything in the buffers lent to it. -/
class Firmware (σ : Type) where
  chsTransfer (direction : Direction) (drive : DriveNumber) (address : Chs) (count : UInt8) :
    Action (Lent σ) Status Unit
  blockTransfer (direction : Direction) (drive : DriveNumber) (packet : Bytes) :
    Action (Lent σ) Status Unit
  extensionsVersion (drive : DriveNumber) : σ → Option UInt8 × σ
  extendedParameters (drive : DriveNumber) : Action (Lent σ) Status Unit
  legacyParameters (drive : DriveNumber) : Action σ Status DriveShape
  opticalStatus (drive : DriveNumber) : Action (Lent σ) Status Unit
  floppyCount : σ → UInt8 × σ
  reset (drive : DriveNumber) : σ → σ

end FirmwareDisk
