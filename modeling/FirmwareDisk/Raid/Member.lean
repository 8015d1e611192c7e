import FirmwareDisk.Bytes
import FirmwareDisk.Error

set_option autoImplicit false

namespace FirmwareDisk.Raid

def magic : Nat := 0xa92b4efc

/-- The layouts of array metadata. -/
inductive MetadataVersion where
  | v090
  | v1
deriving DecidableEq, Repr

/-- The name of a layout. -/
def MetadataVersion.name : MetadataVersion → String
  | .v090 => "0.90"
  | .v1 => "1.x"

/-- One member's account of its array. -/
structure ArrayMember where
  version : MetadataVersion
  arrayNumber : Nat
  level : Int
  layout : Nat
  members : Nat
  memberIndex : Nat
  perMemberSize : Nat
  dataOffset : Nat
  chunkSize : Nat
  uuid : Bytes
  name : Option String
deriving DecidableEq, Repr

def knownLevels : List Int := [0, 1, 4, 5, 6, 10]

/-- The level as it is reported: the old multipath level reads like a mirror. -/
def reportedLevel (level : Int) : Int :=
  if level = -4 then 1 else level

/-- The signed number that a 32-bit word stands for. -/
def signed (value : Nat) : Int :=
  if value < 0x80000000 then value else (value : Int) - UInt32.size

/-- Why no array is reported. -/
inductive RaidError where
  | notRaid
  | unsupportedVersion (major minor : Nat)
  | unsupportedLevel (level : Int)
  | disk (cause : DiskError)
deriving DecidableEq, Repr

/-- The text of an error. -/
def RaidError.message : RaidError → String
  | .notRaid => "not raid"
  | .unsupportedVersion major minor => s!"unsupported RAID version: {major}.{minor}"
  | .unsupportedLevel level => s!"unsupported RAID level: {level}"
  | .disk cause => cause.message

end FirmwareDisk.Raid
