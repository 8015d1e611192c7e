import FirmwareDisk.BlockDevice
import FirmwareDisk.Raid.Version1
import FirmwareDisk.Raid.Version090

set_option autoImplicit false

namespace FirmwareDisk.Raid

def detectorName : String := "mdraid"

def minimumV1Sectors : Nat := 24

/-- Where a version 1.x superblock may be, on a device of `size` sectors. -/
def candidateSectors (size : Nat) : List Nat :=
  [(size - 16) / 8 * 8, 0, 8]

/-- The copy to keep when `found` is met after `best`: the newer one, or the first of equals. -/
def newer (best : Option Superblock1) (found : Superblock1) : Superblock1 :=
  match best with
  | none => found
  | some current => if current.creationTime < found.creationTime then found else current

/-- Where the version 0.90 superblock is, if the device is large enough. -/
def reservedStart? (size : Nat) : Option Nat :=
  let reserved := Superblock090.reservedSectors
  if size / reserved * reserved < reserved then none
  else some (size / reserved * reserved - reserved)

variable {δ : Type} [BlockDevice δ]

def fetch (sector length : Nat) : Action δ RaidError Bytes :=
  Action.mapError .disk (BlockDevice.fetch sector 0 length)

/-- The best valid copy at some candidate sectors, given the best one before them. -/
def searchV1 : List Nat → Option Superblock1 → Action δ RaidError (Option Superblock1)
  | [], best => pure best
  | sector :: rest, best => do
    let raw ← fetch sector Superblock1.headerSize
    match Superblock1.ofBytes? raw with
    | none => searchV1 rest best
    | some found =>
      if found.BelongsAt sector then searchV1 rest (some (newer best found)) else searchV1 rest best

/-- What the version 0.90 superblock read from `sector` says. -/
def interpretV090 (raw : Bytes) (sector : Nat) : Except RaidError ArrayMember :=
  match Superblock090.ofBytes? raw with
  | none => .error .notRaid
  | some superblock =>
    let level := reportedLevel superblock.level
    if superblock.magic ≠ Raid.magic then .error .notRaid
    else if superblock.majorVersion ≠ 0 ∨ superblock.minorVersion ≠ 90 then
      .error (.unsupportedVersion superblock.majorVersion superblock.minorVersion)
    else if level ∉ knownLevels then .error (.unsupportedLevel level)
    else .ok (superblock.member sector level)

/-- Reads the version 0.90 superblock of a device of `size` sectors. -/
def readV090 (size : Nat) : Action δ RaidError ArrayMember :=
  match reservedStart? size with
  | none => Action.refuse .notRaid
  | some sector => do
    let raw ← fetch sector Superblock090.byteSize
    interpretV090 raw sector

/-- What a device says about the array it belongs to. The superblock of version 0.90 is looked for only
where there is no valid copy of version 1.x, and a place that cannot be read ends the search. -/
def detect : Action δ RaidError ArrayMember := do
  let size ← Action.look BlockDevice.totalSectors
  if size = unknownTotal then Action.refuse .notRaid
  else do
    let candidates := if size < minimumV1Sectors then [] else candidateSectors size
    match ← searchV1 candidates none with
    | some superblock => return superblock.member
    | none => readV090 size

end FirmwareDisk.Raid
