import FirmwareDisk.Backend.Basic
import FirmwareDisk.Medium.Basic

set_option autoImplicit false

namespace FirmwareDisk

/-- What a shelf takes down of its use. -/
inductive ShelfEvent where
  | asked (name : String)
  | closed (name : String)
deriving DecidableEq, Repr

/-- Media that can be used without any firmware before them. A medium is named by the stem of the shelf
and its place on it. -/
structure Shelf where
  name : String
  stem : String
  media : List Medium
  broken : List String := []
  events : List ShelfEvent := []

namespace Shelf

def diskNames (shelf : Shelf) : List String :=
  (List.range shelf.media.length).map fun index => s!"{shelf.stem}{index}"

def note (shelf : Shelf) (event : ShelfEvent) : Shelf :=
  { shelf with events := shelf.events ++ [event] }

/-- Offers some names, until one is enough. -/
def offerAll {ε τ : Type} (hook : Hook τ) : List String → Action (Shelf × τ) ε Bool
  | [] => return false
  | name :: rest => do
    if ← hook.offer name then return true else offerAll hook rest

/-- Opens a disk by name. -/
def openDisk (name : String) : Action Shelf DiskError DiskHandle := do
  Action.change fun shelf => shelf.note (.asked name)
  let shelf ← Action.look id
  if name ∈ shelf.broken then Action.refuse (.unreachable name)
  else
    match (shelf.diskNames.zip shelf.media.zipIdx).lookup name with
    | none => Action.refuse (.unknownDevice name)
    | some (medium, id) =>
      return {
        name
        backend := shelf.name
        id
        totalSectors := medium.totalSectors
        hasPartitions := true }

/-- Fills the buffer with the sectors of the medium that a handle numbers. The handle has to have
been opened here. -/
def read (disk : DiskHandle) (sector : Nat) : Action (Lent Shelf) DiskError Unit := fun lent =>
  match lent.state.media[disk.id]? with
  | none => (.fault .outsideBuffer, lent)
  | some medium =>
    let (outcome, after) :=
      BlockDevice.read sector { buffer := lent.buffer, state := medium }
    (outcome,
      { buffer := after.buffer
        state := { lent.state with media := lent.state.media.set disk.id after.state } })

/-- Writes sectors of the medium that a handle numbers. The handle has to have been opened here. -/
def write (disk : DiskHandle) (sector : Nat) (bytes : Bytes) : Action Shelf DiskError Unit :=
  fun shelf =>
    match shelf.media[disk.id]? with
    | none => (.fault .outsideBuffer, shelf)
    | some medium =>
      let (outcome, medium) := BlockDevice.write sector bytes medium
      (outcome, { shelf with media := shelf.media.set disk.id medium })

instance : Backend Shelf where
  name := Shelf.name
  iterate hook := do
    let names ← Action.look fun pair => pair.1.diskNames
    offerAll hook names
  openDisk := openDisk
  read := read
  write := write
  close disk shelf := shelf.note (.closed disk.name)

end Shelf

end FirmwareDisk
