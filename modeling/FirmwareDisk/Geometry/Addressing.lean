import FirmwareDisk.Geometry.Basic
import FirmwareDisk.Firmware.Address

set_option autoImplicit false

namespace FirmwareDisk.Geometry

def addressableCylinders : Nat := 1024

/-- The sectors that 1024 cylinders of 256 heads and 63 sectors have, beyond which no sector is
looked for by address. -/
def addressableSectors : Nat := addressableCylinders * 256 * 63

def trackLength (record : Geometry) : Nat :=
  max 1 record.sectors

def trackCount (record : Geometry) : Nat :=
  max 1 record.heads

def restOfTrack (record : Geometry) (sector : Nat) : Nat :=
  record.trackLength - sector % record.trackLength

/-- The address of a sector, which has to lie on an addressable cylinder. An address keeps the low
bits of a head or sector that it has no room for. -/
def address (record : Geometry) (sector : Nat) : Except DiskError Chs :=
  let track := sector / record.trackLength
  let cylinder := track / record.trackCount
  if addressableSectors < sector ∨ addressableCylinders ≤ cylinder then
    .error (.outOfRange record.drive.name sector)
  else
    .ok {
      cylinder := UInt16.ofNat cylinder
      head := UInt8.ofNat (track % record.trackCount)
      sector := UInt8.ofNat (sector % record.trackLength + 1) }

theorem restOfTrack_pos (record : Geometry) (sector : Nat) : 0 < record.restOfTrack sector := by
  have positive : 0 < record.trackLength := by
    simp only [trackLength]
    omega
  have inside := Nat.mod_lt sector positive
  simp only [restOfTrack]
  omega

end FirmwareDisk.Geometry
