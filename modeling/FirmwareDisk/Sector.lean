import FirmwareDisk.Bytes
import FirmwareDisk.Error

set_option autoImplicit false

namespace FirmwareDisk

/-- The contents of one sector. -/
@[ext] structure Sector where
  bytes : Bytes
  length_bytes : bytes.length = sectorSize
deriving DecidableEq

namespace Sector

def zero : Sector where
  bytes := Bytes.zeros sectorSize
  length_bytes := by simp [Bytes.zeros]

/-- The first sector of a byte string, padded with zeros if the string is short. -/
def ofBytes (bytes : Bytes) : Sector where
  bytes := bytes.take sectorSize ++ Bytes.zeros (sectorSize - (bytes.take sectorSize).length)
  length_bytes := by
    simp only [Bytes.zeros, List.length_append, List.length_take, List.length_replicate]
    omega

def isZero (sector : Sector) : Bool :=
  sector.bytes.all (· == 0)

def listOfBytes (count : Nat) (bytes : Bytes) : List Sector :=
  (Bytes.pieces sectorSize count bytes).map ofBytes

end Sector

/-- The number of sectors that it takes to hold `length` bytes. -/
def sectorsToHold (length : Nat) : Nat :=
  (length + (sectorSize - 1)) / sectorSize

/-- The number of sectors in a buffer of `length` bytes, which has to hold whole sectors. -/
def sectorCount (length : Nat) : Except DiskError Nat :=
  if length % sectorSize = 0 then .ok (length / sectorSize) else .error (.unalignedLength length)

/-- Checks that a range lies inside a device of `capacity` sectors. -/
def checkInside (sector count capacity : Nat) : Except DiskError Unit :=
  if UInt64.size ≤ sector + count then .error .offsetOverflow
  else if capacity < sector + count then .error (.outOfBounds sector count capacity)
  else .ok ()

/-- The number of sectors that a buffer of `length` bytes asks for from `sector` on, if a device of
`capacity` sectors has them. -/
def requestedSectors (sector length capacity : Nat) : Except DiskError Nat := do
  let count ← sectorCount length
  checkInside sector count capacity
  return count

end FirmwareDisk
