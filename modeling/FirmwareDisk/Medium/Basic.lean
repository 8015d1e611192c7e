import FirmwareDisk.Medium.Memory
import FirmwareDisk.Medium.Image

set_option autoImplicit false

namespace FirmwareDisk

/-- Where a medium keeps its sectors. -/
inductive Medium.Store where
  | memory (disk : MemoryDisk)
  | image (file : ImageFile)

/-- What is in a drive. -/
structure Medium where
  store : Medium.Store
  badSectors : List Nat := []

namespace Medium

def label : String := "flaky"

/-- Whether a transfer of `length` bytes from `sector` on touches a bad sector. The end of the range
stays a 64-bit number. -/
def touchesBad (medium : Medium) (sector length : Nat) : Bool :=
  medium.badSectors.any fun bad =>
    sector ≤ bad && bad < min (sector + length / sectorSize) (UInt64.size - 1)

/-- The size in sectors. -/
def totalSectors (medium : Medium) : Nat :=
  match medium.store with
  | .memory disk => BlockDevice.totalSectors disk
  | .image file => BlockDevice.totalSectors file

/-- Reads the store, whatever sectors are bad. -/
def readStore (sector : Nat) : Action (Lent Store) DiskError Unit := fun lent =>
  match lent.state with
  | .memory disk =>
    let (outcome, after) := BlockDevice.read sector { buffer := lent.buffer, state := disk }
    (outcome, { buffer := after.buffer, state := .memory after.state })
  | .image file =>
    let (outcome, after) := BlockDevice.read sector { buffer := lent.buffer, state := file }
    (outcome, { buffer := after.buffer, state := .image after.state })

/-- Writes the store, whatever sectors are bad. -/
def writeStore (sector : Nat) (bytes : Bytes) : Action Store DiskError Unit := fun store =>
  match store with
  | .memory disk =>
    let (outcome, after) := BlockDevice.write sector bytes disk
    (outcome, .memory after)
  | .image file =>
    let (outcome, after) := BlockDevice.write sector bytes file
    (outcome, .image after)

instance : BlockDevice Medium where
  totalSectors := totalSectors
  read sector := fun lent =>
    if lent.state.touchesBad sector lent.buffer.length then (.error (.readFailed label), lent)
    else
      let (outcome, after) :=
        readStore sector { buffer := lent.buffer, state := lent.state.store }
      (outcome, { buffer := after.buffer, state := { lent.state with store := after.state } })
  write sector bytes := fun medium =>
    if medium.touchesBad sector bytes.length then (.error (.writeFailed label), medium)
    else
      let (outcome, store) := writeStore sector bytes medium.store
      (outcome, { medium with store })

/-- Refuses or allows writes from now on. A file is never written either way. -/
def withReadOnly (medium : Medium) (readOnly : Bool) : Medium :=
  match medium.store with
  | .memory disk => { medium with store := .memory { disk with readOnly } }
  | .image _ => medium

/-- The number of sectors that hold storage, if the medium is in memory. -/
def allocated? (medium : Medium) : Option Nat :=
  match medium.store with
  | .memory disk => some disk.allocated
  | .image _ => none

end Medium

end FirmwareDisk
