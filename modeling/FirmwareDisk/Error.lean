set_option autoImplicit false

namespace FirmwareDisk

abbrev sectorSize : Nat := 512

/-- The sector count that stands for "the size cannot be asked for". -/
abbrev unknownTotal : Nat := UInt64.size - 1

/-- A rule that the settings of the disk layer break. -/
inductive SettingsFlaw where
  | fixedDiskCount
  | opticalRetryCount
  | opticalSectorShift
deriving DecidableEq, Repr

/-- The rule in words. -/
def SettingsFlaw.rule : SettingsFlaw → String
  | .fixedDiskCount => "fixed_disk_count must be within 1..=128"
  | .opticalRetryCount => "cdrom_retry_count must be > 0"
  | .opticalSectorShift => "optical_sector_shift must be within 0..=3"

/-- Why a disk operation was refused. Failures that a retry got over never show here. -/
inductive DiskError where
  | unalignedLength (length : Nat)
  | outOfBounds (sector count capacity : Nat)
  | offsetOverflow
  | unreachable (device : String)
  | readFailed (device : String)
  | writeFailed (device : String)
  | outOfRange (device : String) (sector : Nat)
  | unknownDevice (name : String)
  | badDevice (name : String)
  | readOnly (device : String)
  | invalidSettings (flaw : SettingsFlaw)
  | hostFailed (cause : String)
deriving DecidableEq, Repr

/-- The text of an error. -/
def DiskError.message : DiskError → String
  | .unalignedLength length =>
    s!"unaligned buffer length {length} (expected multiple of {sectorSize})"
  | .outOfBounds sector count capacity =>
    s!"out of bounds: sector={sector} count={count} capacity={capacity}"
  | .offsetOverflow => "integer overflow while computing sector offsets"
  | .unreachable device => s!"device {device} is unreachable"
  | .readFailed device => s!"{device} read error"
  | .writeFailed device => s!"{device} write error"
  | .outOfRange device sector => s!"sector {sector} is out of range for {device}"
  | .unknownDevice name => s!"unknown device: {name}"
  | .badDevice name => s!"invalid device: {name}"
  | .readOnly device => s!"{device} is read-only"
  | .invalidSettings flaw => s!"invalid configuration: {flaw.rule}"
  | .hostFailed cause => s!"io error: {cause}"

end FirmwareDisk
