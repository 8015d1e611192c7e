import FirmwareDisk.Sector

set_option autoImplicit false

namespace FirmwareDisk

/-- A state together with a buffer that the caller lends for one request. -/
@[ext] structure Lent (σ : Type) where
  buffer : Bytes
  state : σ

/-- An action on a state alone, in front of which a buffer happens to lie. -/
def Lent.aside {σ ε α : Type} (action : Action σ ε α) : Action (Lent σ) ε α :=
  Action.onPart Lent.state (fun state lent => { lent with state }) action

/-- A device of numbered 512-byte sectors. -/
class BlockDevice (δ : Type) where
  totalSectors : δ → Nat
  read : Nat → Action (Lent δ) DiskError Unit
  write : Nat → Bytes → Action δ DiskError Unit

namespace BlockDevice

variable {δ : Type} [BlockDevice δ]

/-- Fills the buffer with the bytes that start `offset` bytes into a sector. Whole sectors are read
straight into the buffer; anything else is cut out of the sectors around it, and a refusal then
leaves the buffer as it was. -/
def readBytes (sector offset : Nat) : Action (Lent δ) DiskError Unit := fun lent =>
  let length := lent.buffer.length
  let first := sector + offset / sectorSize
  let inside := offset % sectorSize
  if length = 0 then (.ok (), lent)
  else if UInt64.size ≤ first then (.error .offsetOverflow, lent)
  else if inside = 0 ∧ length % sectorSize = 0 then read first lent
  else
    let around := Bytes.zeros (sectorsToHold (inside + length) * sectorSize)
    match read first { buffer := around, state := lent.state } with
    | (.ok (), after) =>
      (.ok (), { buffer := Bytes.slice after.buffer inside length, state := after.state })
    | (.error cause, after) => (.error cause, { lent with state := after.state })
    | (.fault reason, after) => (.fault reason, { lent with state := after.state })

/-- The `length` bytes that start `offset` bytes into a sector. -/
def fetch (sector offset length : Nat) : Action δ DiskError Bytes := fun device =>
  match readBytes sector offset { buffer := Bytes.zeros length, state := device } with
  | (.ok (), after) => (.ok after.buffer, after.state)
  | (.error cause, after) => (.error cause, after.state)
  | (.fault reason, after) => (.fault reason, after.state)

end BlockDevice

end FirmwareDisk
