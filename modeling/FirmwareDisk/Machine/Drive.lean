import FirmwareDisk.Medium.Basic
import FirmwareDisk.Firmware.Services

set_option autoImplicit false

namespace FirmwareDisk

/-- The kinds of drives. -/
inductive DriveKind where
  | fixed
  | floppy
  | optical
deriving DecidableEq, Repr

/-- A medium, the geometry that a drive reports, and the ways in which the drive fails. -/
structure Drive where
  kind : DriveKind
  medium : Medium
  legacy : DriveShape
  extensions : Bool
  brokenExtensions : Bool := false
  /-- The drive parameters that it reports, where they are not its real ones. -/
  reported : Option DriveParameters := none
  /-- The most sectors, or blocks, that it moves at once. -/
  ceiling : Option Nat := none
  unreachable : Bool := false
  transientFailures : Nat := 0

namespace Drive

/-- A hard disk. Its cylinders are as many as 255 heads and 63 sectors fill, but at least one and
never more than an address can name. -/
def fixed (medium : Medium) : Drive where
  kind := .fixed
  medium
  legacy :=
    { cylinders := min (max (BlockDevice.totalSectors medium / (255 * 63)) 1) 1024
      heads := 255
      sectors := 63 }
  extensions := true

/-- A floppy drive. -/
def floppy (medium : Medium) : Drive where
  kind := .floppy
  medium
  legacy := { cylinders := 80, heads := 2, sectors := 18 }
  extensions := false

/-- An optical drive, which has no geometry. -/
def optical (medium : Medium) : Drive where
  kind := .optical
  medium
  legacy := { cylinders := 0, heads := 0, sectors := 0 }
  extensions := true

/-- A drive of a kind. -/
def ofKind : DriveKind → Medium → Drive
  | .fixed => fixed
  | .floppy => floppy
  | .optical => optical

def blockSectors (drive : Drive) : Nat :=
  if drive.kind = .optical then 4 else 1

/-- The drive parameters that the drive reports. -/
def parameters (drive : Drive) : DriveParameters :=
  drive.reported.getD {
    flags := 0
    cylinders := UInt32.ofNat drive.legacy.cylinders
    heads := UInt32.ofNat drive.legacy.heads
    sectors := UInt32.ofNat drive.legacy.sectors
    totalSectors := UInt64.ofNat (BlockDevice.totalSectors drive.medium)
    bytesPerSector := UInt16.ofNat sectorSize }

/-- Whether a track of the drive has the sectors that a transfer names, and the buffer has room for
exactly these. -/
def Serves (drive : Drive) (address : Chs) (count length : Nat) : Prop :=
  count ≠ 0 ∧ address.sector ≠ 0 ∧ address.sector.toNat + count - 1 ≤ drive.legacy.sectors ∧
    address.head.toNat < drive.legacy.heads ∧ address.cylinder.toNat < drive.legacy.cylinders ∧
    length = count * sectorSize

instance (drive : Drive) (address : Chs) (count length : Nat) :
    Decidable (drive.Serves address count length) :=
  inferInstanceAs (Decidable (_ ∧ _ ∧ _ ∧ _ ∧ _ ∧ _))

/-- Lets a transfer of `blocks` blocks through, unless a failure is pending or it is too long. -/
def accept (blocks : Nat) : Action Drive Status Unit := fun drive =>
  match drive.transientFailures with
  | pending + 1 => (.error .timeout, { drive with transientFailures := pending })
  | 0 =>
    if drive.ceiling.any (· < blocks) then (.error .transferTooLong, drive) else (.ok (), drive)

def statusOf : DiskError → Status
  | .readOnly _ => .writeProtected
  | _ => .sectorNotFound

/-- Moves the sectors from a given one on between the medium and the buffer. -/
def move (direction : Direction) (sector : Nat) : Action (Lent Drive) Status Unit :=
  Action.mapError statusOf fun lent =>
    match direction with
    | .read =>
      let (outcome, after) :=
        BlockDevice.read sector { buffer := lent.buffer, state := lent.state.medium }
      (outcome, { buffer := after.buffer, state := { lent.state with medium := after.state } })
    | .write =>
      let (outcome, medium) := BlockDevice.write sector lent.buffer lent.state.medium
      (outcome, { lent with state := { lent.state with medium } })

/-- The legacy transfer service. -/
def chsTransfer (direction : Direction) (address : Chs) (count : UInt8) :
    Action (Lent Drive) Status Unit := do
  let drive ← Action.look Lent.state
  if drive.kind = .optical then Action.refuse .invalidCommand
  else do
    Lent.aside (accept count.toNat)
    let length ← Action.look (·.buffer.length)
    if drive.Serves address count.toNat length then
      match ← Action.ofOutcome (address.linear64 drive.legacy.heads drive.legacy.sectors) with
      | some sector => move direction sector
      | none => Action.refuse .sectorNotFound
    else Action.refuse .sectorNotFound

/-- The extended transfer service. -/
def blockTransfer (direction : Direction) (packet : DiskAddressPacket) :
    Action (Lent Drive) Status Unit := do
  let drive ← Action.look Lent.state
  if !drive.extensions || drive.brokenExtensions then Action.refuse .invalidCommand
  else do
    let blocks := packet.blocks.toNat
    Lent.aside (accept blocks)
    let length ← Action.look (·.buffer.length)
    let start := packet.block.toNat * drive.blockSectors
    if drive.kind = .optical ∧ direction = .write then Action.refuse .writeProtected
    else if blocks = 0 ∨ length ≠ blocks * drive.blockSectors * sectorSize then
      Action.refuse .invalidCommand
    else if UInt64.size ≤ start then Action.refuse .sectorNotFound
    else move direction start

end Drive

end FirmwareDisk
