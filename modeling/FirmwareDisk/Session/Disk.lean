import FirmwareDisk.Session.Enumeration

set_option autoImplicit false

namespace FirmwareDisk.Session

def backendName : String := "biosdisk"

variable {σ : Type} [Firmware σ]

def driveBehind (disk : DiskHandle) : Except DiskError DriveNumber :=
  if disk.id < 256 then .ok (UInt8.ofNat disk.id) else .error (.badDevice disk.name)

/-- Checks that a disk has the sectors of a request. If its size is unknown, any sector may be asked
for. -/
def checkRequest (disk : DiskHandle) (sector count : Nat) : Except DiskError Unit :=
  if disk.totalSectors = unknownTotal then .ok ()
  else if UInt64.size ≤ sector + count ∨ disk.totalSectors < sector + count then
    .error (.outOfRange disk.name sector)
  else .ok ()

def driveNamed (bootDrive : DriveNumber) (name : String) : Except DiskError DriveNumber :=
  if name = bootName then .ok bootDrive else DriveNumber.ofName name

/-- Opens a disk by name. -/
def openDisk (name : String) : Action (Session σ) DiskError DiskHandle := do
  let session ← Action.look id
  let drive ← driveNamed session.settings.bootDrive name
  let record ← recordOf drive
  return {
    name
    backend := backendName
    id := drive.toNat
    totalSectors := record.totalSectors
    hasPartitions := session.opticalDrive ≠ some drive }

/-- The sectors that are read for a request at a time: those of an optical block, or one. -/
def readUnit (settings : Settings) (record : Geometry) : Nat :=
  if record.optical then settings.opticalSpan else 1

theorem length_drop_lt {bytes : Bytes} {count : Nat} (positive : 0 < count)
    (present : count ≤ bytes.length / sectorSize) :
    (bytes.drop (count * sectorSize)).length < bytes.length := by
  simp only [List.length_drop]
  have inside : count * 512 ≤ bytes.length := Nat.mul_le_of_le_div 512 count bytes.length present
  simp only [sectorSize]
  omega

/-- Fills a buffer of whole sectors with the sectors from a given one on, reading whole units. What
was read before a refusal stays in the buffer. -/
def readUnits (device : String) (drive : DriveNumber) (unit sector : Nat) :
    Action (Lent (Session σ)) DiskError Unit := fun lent =>
  let remaining := lent.buffer.length / sectorSize
  if remaining = 0 then (.ok (), lent)
  else
    let skip := sector % unit
    -- Whole units are asked for, from the start of the first to the end of the last.
    let wanted := (skip + remaining + (unit - 1)) / unit * unit
    match transfer drive .read (sector - skip) wanted lent.state with
    | (.error cause, state) => (.error cause, { lent with state })
    | (.fault reason, state) => (.fault reason, { lent with state })
    | (.ok moved, state) =>
      let length := min (moved - skip) remaining
      if length = 0 then (.error (.readFailed device), { lent with state })
      -- The piece is cut out of the staging buffer, which has to reach that far.
      else if Staging.sectors < skip + length then (.fault .outsideBuffer, { lent with state })
      else if UInt64.size ≤ sector + length then (.fault .overflow, { lent with state })
      else
        let piece :=
          Bytes.slice state.channel.staging.data (skip * sectorSize) (length * sectorSize)
        let (outcome, after) := readUnits device drive unit (sector + length)
          { buffer := lent.buffer.drop (length * sectorSize), state }
        (outcome, { after with buffer := piece ++ after.buffer })
termination_by lent => lent.buffer.length
decreasing_by
  rename_i nothing _ _
  exact length_drop_lt (Nat.pos_of_ne_zero nothing) (Nat.min_le_right _ _)

/-- Reads sectors of a disk. -/
def read (disk : DiskHandle) (sector : Nat) : Action (Lent (Session σ)) DiskError Unit := do
  let drive ← driveBehind disk
  let length ← Action.look fun lent => lent.buffer.length
  let count ← sectorCount length
  checkRequest disk sector count
  let record ← Lent.aside (recordOf drive)
  let settings ← Action.look fun lent => lent.state.settings
  readUnits disk.name drive (readUnit settings record) sector

/-- Puts bytes at the start of the staging buffer. -/
def stage (bytes : Bytes) : Action (Session σ) DiskError Unit := fun session =>
  match session.channel.staging.put 0 bytes with
  | .ok staging => (.ok (), { session with channel := { session.channel with staging } })
  | .error cause => (.error cause, session)

/-- Moves what lies `count` sectors into the staging buffer to its start, `remaining` sectors of
it. -/
def advance (count remaining : Nat) (session : Session σ) : Session σ :=
  let staging := session.channel.staging
  let rest := Bytes.slice staging.data (count * sectorSize) (remaining * sectorSize)
  { session with channel := { session.channel with staging := staging.fill 0 rest } }

/-- Writes the first `remaining` sectors of the staging buffer, which has to have them, and tells which
sector comes after them. -/
def writeStaged (drive : DriveNumber) (sector remaining : Nat) :
    Action (Session σ) DiskError Nat := fun session =>
  if wanted : remaining = 0 then (.ok sector, session)
  else
    match success : transfer drive .write sector remaining session with
    | (.error cause, after) => (.error cause, after)
    | (.fault reason, after) => (.fault reason, after)
    | (.ok moved, after) =>
      have : remaining - moved < remaining :=
        Nat.sub_lt (Nat.pos_of_ne_zero wanted)
          (transfer_moved (Nat.pos_of_ne_zero wanted) success).1
      if UInt64.size ≤ sector + moved then (.fault .overflow, after)
      else if Staging.sectors < remaining then (.fault .outsideBuffer, after)
      else
        writeStaged drive (sector + moved) (remaining - moved)
          (advance moved (remaining - moved) after)
termination_by remaining

/-- Writes pieces of whole sectors one after the other. -/
def writePieces (drive : DriveNumber) : Nat → List Bytes → Action (Session σ) DiskError Unit
  | _, [] => pure ()
  | sector, piece :: rest => do
    stage piece
    let next ← writeStaged drive sector (piece.length / sectorSize)
    writePieces drive next rest

/-- The pieces in which a buffer is written, each as long as the longest transfer. -/
def writtenPieces (bytes : Bytes) : List Bytes :=
  let size := Geometry.longestTransfer * sectorSize
  Bytes.pieces size ((bytes.length + (size - 1)) / size) bytes

/-- Writes sectors of a disk. -/
def write (disk : DiskHandle) (sector : Nat) (bytes : Bytes) :
    Action (Session σ) DiskError Unit := do
  let drive ← driveBehind disk
  let count ← sectorCount bytes.length
  let record ← recordOf drive
  if record.optical then Action.refuse (.readOnly disk.name)
  else do
    checkRequest disk sector count
    writePieces drive sector (writtenPieces bytes)

instance : Backend (Session σ) where
  name _ := backendName
  iterate := iterate
  openDisk := openDisk
  read := read
  write := write
  close _ session := session

end FirmwareDisk.Session
