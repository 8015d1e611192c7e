import FirmwareDisk.Backend.Basic

set_option autoImplicit false

namespace FirmwareDisk

variable {α β : Type} [Backend α] [Backend β]

instance : Backend (α ⊕ β) where
  name
    | .inl backend => Backend.name backend
    | .inr backend => Backend.name backend
  iterate hook := fun
    | (.inl backend, seen) =>
      let (outcome, (after, seen)) := NamedDisks.iterate hook (backend, seen)
      (outcome, (.inl after, seen))
    | (.inr backend, seen) =>
      let (outcome, (after, seen)) := NamedDisks.iterate hook (backend, seen)
      (outcome, (.inr after, seen))
  openDisk name := fun
    | .inl backend =>
      let (outcome, after) := NamedDisks.openDisk name backend
      (outcome, .inl after)
    | .inr backend =>
      let (outcome, after) := NamedDisks.openDisk name backend
      (outcome, .inr after)
  read disk sector := fun lent =>
    match lent.state with
    | .inl state =>
      let (outcome, after) := NamedDisks.read disk sector { buffer := lent.buffer, state }
      (outcome, { buffer := after.buffer, state := .inl after.state })
    | .inr state =>
      let (outcome, after) := NamedDisks.read disk sector { buffer := lent.buffer, state }
      (outcome, { buffer := after.buffer, state := .inr after.state })
  write disk sector bytes := fun
    | .inl backend =>
      let (outcome, after) := NamedDisks.write disk sector bytes backend
      (outcome, .inl after)
    | .inr backend =>
      let (outcome, after) := NamedDisks.write disk sector bytes backend
      (outcome, .inr after)
  close disk
    | .inl backend => .inl (NamedDisks.close disk backend)
    | .inr backend => .inr (NamedDisks.close disk backend)

end FirmwareDisk
