import FirmwareDisk.BlockDevice

set_option autoImplicit false

namespace FirmwareDisk

/-- What is known of an opened disk. A handle is plain data: whatever is done with the disk goes
through its backend. -/
structure DiskHandle where
  name : String
  backend : String
  id : Nat
  totalSectors : Nat
  hasPartitions : Bool
deriving DecidableEq, Repr

/-- What a caller does with a name that is offered to it: whether that was enough, and what it has
seen by then. -/
abbrev Hook (τ : Type) : Type :=
  String → τ → Bool × τ

/-- What offers disks by name, and moves the sectors of those it has opened. -/
class NamedDisks (σ : Type) where
  iterate {ε τ : Type} (hook : Hook τ) : Action (σ × τ) ε Bool
  openDisk (name : String) : Action σ DiskError DiskHandle
  read (disk : DiskHandle) (sector : Nat) : Action (Lent σ) DiskError Unit
  write (disk : DiskHandle) (sector : Nat) (bytes : Bytes) : Action σ DiskError Unit
  close (disk : DiskHandle) : σ → σ

/-- A driver of named disks, which has a name itself. -/
class Backend (β : Type) extends NamedDisks β where
  name : β → String

/-- A hook that keeps the names offered to it, the latest first, and has seen enough at some. -/
def Hook.collecting (enough : String → Bool) : Hook (List String) :=
  fun name seen => (enough name, name :: seen)

/-- Offers a name to the caller, beside whatever state offers it. -/
def Hook.offer {σ ε τ : Type} (hook : Hook τ) (name : String) : Action (σ × τ) ε Bool :=
  fun (state, seen) =>
    let (enough, seen) := hook name seen
    (.ok enough, (state, seen))

end FirmwareDisk
