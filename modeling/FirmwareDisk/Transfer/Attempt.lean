import FirmwareDisk.Settings
import FirmwareDisk.Staging
import FirmwareDisk.Geometry.Addressing

set_option autoImplicit false

namespace FirmwareDisk

/-- Why an attempt came to nothing. -/
inductive Refusal where
  /-- The firmware refused; a shorter or differently addressed attempt may succeed. -/
  | retryable (status : Status)
  | final (cause : DiskError)
deriving DecidableEq, Repr

namespace Transfer

variable {σ : Type} [Firmware σ]

def reserve (length : Nat) : Action (Channel σ) Refusal Unit :=
  Action.mapError .final (Action.ofOutcome (.ofExcept (Staging.checkRegion 0 length)))

/-- The encoded packet that moves `blocks` blocks from `block` on through the staging buffer. -/
def packet (blocks block : Nat) : Action (Channel σ) Refusal Bytes :=
  Action.look fun channel =>
    DiskAddressPacket.encode {
      blocks := UInt16.ofNat blocks
      buffer := channel.staging.startPointer
      block := UInt64.ofNat block }

/-- Tries a service up to a number of times. -/
def tryTimes (service : Action (Channel σ) Status Unit) (cause : DiskError) :
    Nat → Action (Channel σ) Refusal Unit
  | 0 => Action.refuse (.final cause)
  | tries + 1 => do
    match ← service.caught with
    | .ok () => pure ()
    | .error _ => tryTimes service cause tries

/-- Reads the optical blocks that hold some sectors. The size of a block and of the whole have to be
64-bit numbers. -/
def attemptOptical (settings : Settings) (drive : DriveNumber) (sector length : Nat) :
    Action (Channel σ) Refusal Unit :=
  if 64 ≤ settings.opticalSectorShift then Action.ofOutcome (.fault .overflow)
  else
    let ratio := settings.opticalSpan
    let blocks := (length + (ratio - 1)) / ratio
    let size := blocks * ratio * sectorSize
    if UInt64.size ≤ size then Action.ofOutcome (.fault .overflow)
    else do
      let raw ← packet blocks (sector / ratio)
      reserve size
      tryTimes (Channel.lend size (Firmware.blockTransfer .read drive raw))
        (.readFailed drive.name) settings.opticalRetryCount

/-- Moves some sectors in the addressing mode of the record. -/
def attemptSectors (record : Geometry) (direction : Direction) (sector length : Nat) :
    Action (Channel σ) Refusal Unit := do
  let size := length * sectorSize
  reserve size
  match record.mode with
  | .lba =>
    let raw ← packet length sector
    Action.mapError .retryable
      (Channel.lend size (Firmware.blockTransfer direction record.drive raw))
  | .chs =>
    let address ← Action.mapError .final (Action.ofOutcome (.ofExcept (record.address sector)))
    Action.mapError .retryable
      (Channel.lend size
        (Firmware.chsTransfer direction record.drive address (UInt8.ofNat length)))

/-- Moves `length` sectors from `sector` on between the drive and the start of the staging
buffer. -/
def attempt (settings : Settings) (record : Geometry) (direction : Direction)
    (sector length : Nat) : Action (Channel σ) Refusal Unit :=
  if record.optical then attemptOptical settings record.drive sector length
  else attemptSectors record direction sector length

end Transfer

end FirmwareDisk
