import FirmwareDisk.BlockDevice
import Std.Data.TreeMap

set_option autoImplicit false

namespace FirmwareDisk

/-- A sparse disk: only sectors that were written hold storage, and all others read as zeros. -/
structure MemoryDisk where
  totalSectors : Nat
  stored : Std.TreeMap Nat Sector := {}
  readOnly : Bool := false

namespace MemoryDisk

def sectorAt (disk : MemoryDisk) (sector : Nat) : Sector :=
  disk.stored[sector]?.getD Sector.zero

def allocated (disk : MemoryDisk) : Nat :=
  disk.stored.size

def bytesAt (disk : MemoryDisk) (sector count : Nat) : Bytes :=
  (List.range count).flatMap fun index => (disk.sectorAt (sector + index)).bytes

/-- Stores consecutive sectors. -/
def store (disk : MemoryDisk) : Nat → List Sector → MemoryDisk
  | _, [] => disk
  | sector, contents :: rest =>
    store { disk with stored := disk.stored.insert sector contents } (sector + 1) rest

/-- Stores consecutive sectors, passing over those that are all zero. -/
def storeNonzero (disk : MemoryDisk) : Nat → List Sector → MemoryDisk
  | _, [] => disk
  | sector, contents :: rest =>
    let stored := if contents.isZero then disk.stored else disk.stored.insert sector contents
    storeNonzero { disk with stored } (sector + 1) rest

def ofBytes (bytes : Bytes) : MemoryDisk :=
  let count := sectorsToHold bytes.length
  storeNonzero { totalSectors := count } 0 (Sector.listOfBytes count bytes)

/-- The disk with some bytes written over it from a byte offset on. Every sector that they touch
holds storage from then on. -/
def patched (disk : MemoryDisk) (start : Nat) (patch : Bytes) : MemoryDisk :=
  let first := start / sectorSize
  let inside := start % sectorSize
  let count := if patch.isEmpty then 0 else sectorsToHold (inside + patch.length)
  let contents := Bytes.overlay (disk.bytesAt first count) inside patch
  disk.store first (Sector.listOfBytes count contents)

def label : String := "memdisk"

instance : BlockDevice MemoryDisk where
  totalSectors := MemoryDisk.totalSectors
  read sector := fun lent =>
    match requestedSectors sector lent.buffer.length lent.state.totalSectors with
    | .ok count => (.ok (), { lent with buffer := lent.state.bytesAt sector count })
    | .error cause => (.error cause, lent)
  write sector bytes := fun disk =>
    if disk.readOnly then (.error (.readOnly label), disk)
    else match requestedSectors sector bytes.length disk.totalSectors with
      | .ok count => (.ok (), disk.store sector (Sector.listOfBytes count bytes))
      | .error cause => (.error cause, disk)

end MemoryDisk

end FirmwareDisk
