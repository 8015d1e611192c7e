import FirmwareDisk.Staging
import FirmwareDisk.Geometry.FbOverride

set_option autoImplicit false

namespace FirmwareDisk

/-- What a drive looks like before any override is followed. -/
structure Baseline where
  extended : Bool
  reported : Nat
  cylinders : Nat
  heads : Nat
  sectors : Nat
deriving DecidableEq, Repr

/-- The heads and sectors that an override settles. -/
structure TrackShape where
  heads : Nat
  sectors : Nat
deriving DecidableEq, Repr

namespace Geometry

def mostHeads : Nat := 255

def mostSectors : Nat := 63

def countOr (count most default : Nat) : Nat :=
  if 1 ≤ count ∧ count ≤ most then count else default

/-- The size that a block of drive parameters reports. A product that is no 64-bit number is as
good as no size. -/
def reportedSize (parameters : DriveParameters) : Nat :=
  let product :=
    parameters.cylinders.toNat * parameters.heads.toNat * parameters.sectors.toNat
  if parameters.cylinders = DriveParameters.uncountedCylinders then unknownTotal
  else if parameters.totalSectors ≠ 0 then parameters.totalSectors.toNat
  else if product < UInt64.size then product
  else unknownTotal

/-- The baseline of a floppy drive, from the parameters in its boot sector. -/
def floppyBaseline (bootSector : Bytes) : Baseline where
  extended := false
  reported := 0
  cylinders := 1024
  heads := countOr (Bytes.word 2 bootSector 0x1a) mostHeads 2
  sectors := countOr (Bytes.word 2 bootSector 0x18) mostSectors 18

/-- The mark that a sector carries, which says where it belongs. A sector with an override keeps it
among the fields, any other in its last word. -/
def marker? (sector : Bytes) : Option Nat :=
  if FbOverride.lastWord sector ≠ FbOverride.signature then some (FbOverride.lastWord sector)
  else if FbOverride.hasMark sector then some (FbOverride.fieldsOf sector).lba.toNat
  else none

/-- The sectors per track that the first sector of the second head shows: the distance of its mark
from the override's sector. -/
def sectorsShown? (base : Nat) (sector : Bytes) : Option Nat := do
  let mark ← marker? sector
  if base ≤ mark ∧ 1 ≤ mark - base ∧ mark - base ≤ mostSectors then some (mark - base) else none

/-- The heads that the first sector of the second cylinder shows: its distance from the override's
sector in tracks. Here only a mark in the last word counts. -/
def headsShown? (base sectors : Nat) (sector : Bytes) : Option Nat :=
  let mark := FbOverride.lastWord sector
  let distance := mark - base
  if mark ≠ FbOverride.signature ∧ base ≤ mark ∧ distance % sectors = 0 ∧
      1 ≤ distance / sectors ∧ distance / sectors ≤ mostHeads then
    some (distance / sectors)
  else none

/-- The record that a baseline gives, with transfers of at most `cap` sectors. In linear mode the
default cap is raised to the longest transfer there is. -/
def ofBaseline (drive : DriveNumber) (baseline : Baseline) (cap : Nat) (fbOverride : Bool) :
    Geometry where
  drive
  mode := if baseline.extended then .lba else .chs
  optical := false
  fbOverride
  sectors := baseline.sectors
  heads := baseline.heads
  cylinders := baseline.cylinders
  cap :=
    if baseline.extended ∧ cap = usualCap then longestTransfer else cap
  chsCap := cap
  totalSectors :=
    max baseline.reported (baseline.cylinders * baseline.heads * baseline.sectors)

variable {σ : Type} [Firmware σ]

/-- Reads one sector through the staging buffer, or finds that it cannot be read. -/
def readSector? {ε : Type} (drive : DriveNumber) (address : Chs) :
    Action (Channel σ) ε (Option Bytes) := do
  match ← (Channel.lend sectorSize (Firmware.chsTransfer .read drive address 1)).caught with
  | .ok () => return some (← Channel.staged sectorSize)
  | .error _ => return none

/-- The drive parameters of a drive with extended services, if it has them and gives them. -/
def extendedParameters? {ε : Type} (drive : DriveNumber) :
    Action (Channel σ) ε (Option DriveParameters) := fun channel =>
  match Firmware.extensionsVersion drive channel.firmware with
  | (none, firmware) => (.ok none, { channel with firmware })
  | (some _, firmware) =>
    let size := DriveParameters.byteSize
    -- The first word tells the firmware how much of the block it may fill.
    let block := Bytes.ofNat 2 size ++ Bytes.zeros (size - 2)
    match Firmware.extendedParameters drive { buffer := block, state := firmware } with
    | (.ok (), after) =>
      (.ok (some (.ofBytes (Bytes.overlay block 0 after.buffer))),
        { channel with firmware := after.state })
    | (.error _, after) => (.ok none, { channel with firmware := after.state })
    | (.fault reason, after) => (.fault reason, { channel with firmware := after.state })

/-- The baseline of a fixed disk, from what the firmware reports. -/
def fixedBaseline {ε : Type} (drive : DriveNumber) : Action (Channel σ) ε Baseline := do
  let parameters ← extendedParameters? drive
  let reported := (parameters.map reportedSize).getD 0
  match ← (Channel.ask (Firmware.legacyParameters drive)).caught with
  | .ok shape =>
    return {
      extended := parameters.isSome
      reported
      cylinders := shape.cylinders
      heads := countOr shape.heads mostHeads 255
      sectors := countOr shape.sectors mostSectors 63 }
  | .error _ =>
    return { extended := parameters.isSome, reported, cylinders := 0, heads := 255, sectors := 63 }

/-- The shape that a drive with an override shows, if two of its sectors say where they belong. -/
def trackShape? {ε : Type} (drive : DriveNumber) (base : Nat) :
    Action (Channel σ) ε (Option TrackShape) := do
  let some secondHead ← readSector? drive { cylinder := 0, head := 1, sector := 1 } | return none
  let some sectors := sectorsShown? base secondHead | return none
  let some secondCylinder ← readSector? drive { cylinder := 1, head := 0, sector := 1 }
    | return none
  let some heads := headsShown? base sectors secondCylinder | return none
  return some { heads, sectors }

/-- The record of a drive that carries an override. -/
def followOverride {ε : Type} (drive : DriveNumber) (baseline : Baseline)
    (fbOverride : FbOverride) : Action (Channel σ) ε Geometry := do
  let cap := fbOverride.transferCap
  if baseline.extended ∧ !fbOverride.chsOnly then return ofBaseline drive baseline cap true
  else
    let baseline := { baseline with extended := false }
    match ← trackShape? drive fbOverride.lba.toNat with
    | none => return ofBaseline drive baseline cap false
    | some shape =>
      let baseline := { baseline with heads := shape.heads, sectors := shape.sectors }
      return ofBaseline drive baseline cap true

/-- Finds out the geometry of a drive. Only a failed read of the first sector is an error: extended
services that are missing, counts that make no sense and an override that cannot be followed are all
absorbed into defaults. The optical drive that the machine started from needs no call. -/
def probe (drive : DriveNumber) (opticalDrive : Option DriveNumber) :
    Action (Channel σ) DiskError Geometry :=
  if opticalDrive = some drive then pure (ofOptical drive)
  else do
    let some bootSector ← readSector? drive { cylinder := 0, head := 0, sector := 1 }
      | Action.refuse (.unreachable drive.name)
    let baseline ←
      if drive.isFixed then fixedBaseline drive else pure (floppyBaseline bootSector)
    match FbOverride.ofSector? bootSector with
    | none => return ofBaseline drive baseline usualCap false
    | some fbOverride => followOverride drive baseline fbOverride

end Geometry

end FirmwareDisk
