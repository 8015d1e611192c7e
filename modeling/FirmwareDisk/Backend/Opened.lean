import FirmwareDisk.Backend.Basic

set_option autoImplicit false

namespace FirmwareDisk

/-- A handle with its backend. -/
structure OpenedDisk (β : Type) where
  backend : β
  disk : DiskHandle

namespace OpenedDisk

variable {β : Type} [Backend β]

/-- Runs a service of the backend that works on a buffer. -/
def lend (service : Action (Lent β) DiskError Unit) : Action (Lent (OpenedDisk β)) DiskError Unit :=
  Action.onPart (fun lent => { buffer := lent.buffer, state := lent.state.backend })
    (fun after lent =>
      { buffer := after.buffer, state := { lent.state with backend := after.state } })
    service

instance : BlockDevice (OpenedDisk β) where
  totalSectors opened := opened.disk.totalSectors
  read sector := do
    let disk ← Action.look fun lent => lent.state.disk
    let length ← Action.look fun lent => lent.buffer.length
    let _ ← sectorCount length
    lend (NamedDisks.read disk sector)
  write sector bytes := do
    let disk ← Action.look disk
    let _ ← sectorCount bytes.length
    Action.onPart backend (fun backend opened => { opened with backend })
      (NamedDisks.write disk sector bytes)

end OpenedDisk

end FirmwareDisk
