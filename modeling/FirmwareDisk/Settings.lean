import FirmwareDisk.Error
import FirmwareDisk.DriveNumber

set_option autoImplicit false

namespace FirmwareDisk

/-- The settings of a session with a firmware. -/
structure Settings where
  bootDrive : DriveNumber := 0x80
  fixedDiskCount : Nat := 16
  opticalRetryCount : Nat := 3
  /-- How often a sector has to be doubled to give an optical one. -/
  opticalSectorShift : Nat := 2
  stagingSegment : UInt16 := 0x6800
deriving DecidableEq, Repr

namespace Settings

/-- The first rule that the settings break, if they break one. -/
def flaw? (settings : Settings) : Option SettingsFlaw :=
  if settings.fixedDiskCount = 0 ∨ 0x80 < settings.fixedDiskCount then some .fixedDiskCount
  else if settings.opticalRetryCount = 0 then some .opticalRetryCount
  else if 3 < settings.opticalSectorShift then some .opticalSectorShift
  else none

/-- Checks the settings. -/
def check (settings : Settings) : Except DiskError Unit :=
  match settings.flaw? with
  | none => .ok ()
  | some flaw => .error (.invalidSettings flaw)

def opticalSpan (settings : Settings) : Nat :=
  1 <<< settings.opticalSectorShift

def fixedDrives (settings : Settings) : List DriveNumber :=
  (List.range settings.fixedDiskCount).map fun index => UInt8.ofNat (DriveNumber.firstFixed + index)

def isBeyondFixed (settings : Settings) (drive : DriveNumber) : Bool :=
  DriveNumber.firstFixed + settings.fixedDiskCount ≤ drive.toNat

end Settings

end FirmwareDisk
