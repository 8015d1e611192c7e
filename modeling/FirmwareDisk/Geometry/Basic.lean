import FirmwareDisk.Error
import FirmwareDisk.DriveNumber

set_option autoImplicit false

namespace FirmwareDisk

/-- How a transfer names its sectors. -/
inductive Addressing where
  | chs
  | lba
deriving DecidableEq, Repr

def Addressing.name : Addressing → String
  | .chs => "chs"
  | .lba => "lba"

/-- What is known of a drive. -/
@[ext] structure Geometry where
  drive : DriveNumber
  mode : Addressing
  optical : Bool
  fbOverride : Bool
  sectors : Nat
  heads : Nat
  cylinders : Nat
  cap : Nat
  /-- The longest transfer that is tried once the linear mode has been given up. -/
  chsCap : Nat
  totalSectors : Nat
deriving DecidableEq, Repr

namespace Geometry

def usualCap : Nat := 63

def longestTransfer : Nat := 127

def opticalCap : Nat := 32

/-- The record of the optical drive, which is never probed. -/
def ofOptical (drive : DriveNumber) : Geometry where
  drive
  mode := .lba
  optical := true
  fbOverride := false
  sectors := opticalCap
  heads := 0
  cylinders := 0
  cap := opticalCap
  chsCap := opticalCap
  totalSectors := unknownTotal

/-- The flags as one number: linear mode 1, optical 2, override 4. -/
def flagBits (record : Geometry) : Nat :=
  (if record.mode = .lba then 1 else 0) + (if record.optical then 2 else 0) +
    (if record.fbOverride then 4 else 0)

/-- The record with the flags that a number stands for. -/
def withFlagBits (record : Geometry) (bits : Nat) : Geometry :=
  { record with
    mode := if bits.testBit 0 then .lba else .chs
    optical := bits.testBit 1
    fbOverride := bits.testBit 2 }

/-- The sectors that cylinders, heads and sectors can name, as far as a 64-bit number can say. -/
def addressCapacity (record : Geometry) : Nat :=
  min (min (record.cylinders * record.heads) (UInt64.size - 1) * record.sectors) (UInt64.size - 1)

end Geometry

end FirmwareDisk
