import FirmwareDisk.Backend.Opened

set_option autoImplicit false

namespace FirmwareDisk

/-- Backends, in the order in which they were registered. A name is offered to one after the other,
until one of them knows it; an opened disk goes back to the backend that its handle names. -/
structure Registry (β : Type) where
  backends : List β := []

namespace Registry

variable {β ε τ α : Type} [Backend β]

/-- A backend among those registered before and after it. -/
structure Slot (β : Type) where
  before : List β
  backend : β
  after : List β

def Slot.toList {β : Type} (slot : Slot β) : List β :=
  slot.before ++ slot.backend :: slot.after

/-- The first backend of a name. -/
def slot? (name : String) : List β → Option (Slot β)
  | [] => none
  | backend :: rest =>
    if Backend.name backend = name then some { before := [], backend, after := rest }
    else (slot? name rest).map fun slot => { slot with before := backend :: slot.before }

def add (registry : Registry β) (backend : β) : Registry β where
  backends := registry.backends ++ [backend]

/-- Takes away the first backend of a name, and returns it if there is one. -/
def remove (registry : Registry β) (name : String) : Option β × Registry β :=
  match slot? name registry.backends with
  | none => (none, registry)
  | some slot => (some slot.backend, { backends := slot.before ++ slot.after })

def names (registry : Registry β) : List String :=
  registry.backends.map Backend.name

/-- Offers the names of the disks of some backends, until one is enough. -/
def iterateAll (hook : Hook τ) : Action (List β × τ) ε Bool
  | ([], seen) => (.ok false, ([], seen))
  | (backend :: rest, seen) =>
    match NamedDisks.iterate hook (backend, seen) with
    | (.ok false, (backend, seen)) =>
      let (outcome, (rest, seen)) := iterateAll hook (rest, seen)
      (outcome, (backend :: rest, seen))
    | (outcome, (backend, seen)) => (outcome, (backend :: rest, seen))

def iterate (hook : Hook τ) : Action (Registry β × τ) ε Bool :=
  Action.onPart (fun pair => (pair.1.backends, pair.2))
    (fun after _ => ({ backends := after.1 }, after.2)) (iterateAll hook)

/-- Opens a disk with the first of some backends that knows its name. -/
def openFirst (name : String) : Action (List β) DiskError DiskHandle
  | [] => (.error (.unknownDevice name), [])
  | backend :: rest =>
    match NamedDisks.openDisk name backend with
    | (.error (.unknownDevice _), backend) =>
      let (outcome, rest) := openFirst name rest
      (outcome, backend :: rest)
    | (outcome, backend) => (outcome, backend :: rest)

def openDisk (name : String) : Action (Registry β) DiskError DiskHandle :=
  Action.onPart backends (fun backends _ => { backends }) (openFirst name)

/-- Runs a service on an opened disk as a block device. The disk has to have a backend. -/
def withOpened (disk : DiskHandle) (wrap : DiskError → ε) (service : Action (OpenedDisk β) ε α) :
    Action (Registry β) ε α := fun registry =>
  match slot? disk.backend registry.backends with
  | none => (.error (wrap (.badDevice disk.name)), registry)
  | some slot =>
    let (outcome, opened) := service { backend := slot.backend, disk }
    (outcome, { backends := Slot.toList { slot with backend := opened.backend } })

/-- Fills the buffer with the sectors of an opened disk from a given one on. -/
def read (disk : DiskHandle) (sector : Nat) : Action (Lent (Registry β)) DiskError Unit :=
  fun lent =>
    match slot? disk.backend lent.state.backends with
    | none => (.error (.badDevice disk.name), lent)
    | some slot =>
      let (outcome, after) :=
        NamedDisks.read disk sector { buffer := lent.buffer, state := slot.backend }
      (outcome,
        { buffer := after.buffer
          state := { backends := Slot.toList { slot with backend := after.state } } })

/-- Writes sectors of an opened disk. -/
def write (disk : DiskHandle) (sector : Nat) (bytes : Bytes) :
    Action (Registry β) DiskError Unit := fun registry =>
  match slot? disk.backend registry.backends with
  | none => (.error (.badDevice disk.name), registry)
  | some slot =>
    let (outcome, backend) := NamedDisks.write disk sector bytes slot.backend
    (outcome, { backends := Slot.toList { slot with backend } })

/-- Closes an opened disk. A disk without a backend is closed already. -/
def close (disk : DiskHandle) (registry : Registry β) : Registry β :=
  match slot? disk.backend registry.backends with
  | none => registry
  | some slot =>
    { backends := Slot.toList { slot with backend := NamedDisks.close disk slot.backend } }

instance : NamedDisks (Registry β) where
  iterate := iterate
  openDisk := openDisk
  read := read
  write := write
  close disk registry := registry.close disk

end Registry

end FirmwareDisk
