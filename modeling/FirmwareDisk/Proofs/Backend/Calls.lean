import FirmwareDisk.Backend.Shelf
import FirmwareDisk.Backend.Sum
import FirmwareDisk.Session.Disk

set_option autoImplicit false

namespace FirmwareDisk

/-- What calls make of a backend. -/
inductive Called {β : Type} [Backend β] (start : β) : β → Prop
  | start : Called start start
  | iterate {ε τ : Type} {backend : β} (called : Called start backend) (hook : Hook τ) (seen : τ) :
      Called start ((NamedDisks.iterate hook : Action (β × τ) ε Bool) (backend, seen)).2.1
  | openDisk {backend : β} (called : Called start backend) (name : String) :
      Called start (NamedDisks.openDisk name backend).2
  | read {backend : β} (called : Called start backend) (disk : DiskHandle) (sector : Nat)
      (buffer : Bytes) :
      Called start (NamedDisks.read disk sector { buffer, state := backend }).2.state
  | write {backend : β} (called : Called start backend) (disk : DiskHandle) (sector : Nat)
      (bytes : Bytes) : Called start (NamedDisks.write disk sector bytes backend).2
  | close {backend : β} (called : Called start backend) (disk : DiskHandle) :
      Called start (NamedDisks.close disk backend)

theorem Called.trans {β : Type} [Backend β] {start middle last : β} (front : Called start middle)
    (back : Called middle last) : Called start last := by
  induction back with
  | start => exact front
  | iterate _ hook seen ih => exact .iterate ih hook seen
  | openDisk _ name ih => exact .openDisk ih name
  | read _ disk sector buffer ih => exact .read ih disk sector buffer
  | write _ disk sector bytes ih => exact .write ih disk sector bytes
  | close _ disk ih => exact .close ih disk

/-- Backends that write their own name into the handles they give, and keep it. -/
structure Truthful (β : Type) [Backend β] : Prop where
  signs : ∀ {name : String} {backend : β} {disk : DiskHandle},
    (NamedDisks.openDisk name backend).1 = .ok disk → disk.backend = Backend.name backend
  iterate : ∀ {ε τ : Type} (hook : Hook τ) (seen : τ) (backend : β),
    Backend.name ((NamedDisks.iterate hook : Action (β × τ) ε Bool) (backend, seen)).2.1 =
      Backend.name backend
  openDisk : ∀ (name : String) (backend : β),
    Backend.name (NamedDisks.openDisk name backend).2 = Backend.name backend
  read : ∀ (disk : DiskHandle) (sector : Nat) (buffer : Bytes) (backend : β),
    Backend.name (NamedDisks.read disk sector { buffer, state := backend }).2.state =
      Backend.name backend
  write : ∀ (disk : DiskHandle) (sector : Nat) (bytes : Bytes) (backend : β),
    Backend.name (NamedDisks.write disk sector bytes backend).2 = Backend.name backend
  close : ∀ (disk : DiskHandle) (backend : β),
    Backend.name (NamedDisks.close disk backend) = Backend.name backend

namespace Truthful

/-- Whatever a truthful backend is asked, it keeps its name. -/
theorem name_eq {β : Type} [Backend β] (truthful : Truthful β) {start backend : β}
    (called : Called start backend) : Backend.name backend = Backend.name start := by
  induction called with
  | start => rfl
  | iterate _ hook seen ih => exact (truthful.iterate hook seen _).trans ih
  | openDisk _ name ih => exact (truthful.openDisk name _).trans ih
  | read _ disk sector buffer ih => exact (truthful.read disk sector buffer _).trans ih
  | write _ disk sector bytes ih => exact (truthful.write disk sector bytes _).trans ih
  | close _ disk ih => exact (truthful.close disk _).trans ih

theorem session {σ : Type} [Firmware σ] : Truthful (Session σ) where
  signs := by
    intro name session disk opened
    obtain ⟨number, _, _, opened⟩ := Action.bind_eq_ok.mp (Prod.ext opened rfl)
    obtain ⟨record, _, _, opened⟩ := Action.bind_eq_ok.mp opened
    cases opened
    rfl
  iterate _ _ _ := rfl
  openDisk _ _ := rfl
  read _ _ _ _ := rfl
  write _ _ _ _ := rfl
  close _ _ := rfl

theorem shelf_offerAll {ε τ : Type} (hook : Hook τ) (names : List String) (shelf : Shelf)
    (seen : τ) :
    ((Shelf.offerAll hook names : Action (Shelf × τ) ε Bool) (shelf, seen)).2.1 = shelf := by
  induction names generalizing seen with
  | nil => rfl
  | cons name rest ih =>
    rw [Shelf.offerAll, Action.bind_apply, Hook.offer]
    cases enough : (hook name seen).1 with
    | true => simp only [enough, ↓reduceIte, Action.pure_apply]
    | false =>
      simp only [enough, Bool.false_eq_true, ↓reduceIte]
      exact ih _

/-- How a shelf answers to a name: it takes down that it was asked, and changes nothing else. -/
theorem shelf_openDisk (name : String) (shelf : Shelf) :
    Shelf.openDisk name shelf =
      (if name ∈ shelf.broken then .error (.unreachable name)
        else match (shelf.diskNames.zip shelf.media.zipIdx).lookup name with
          | none => .error (.unknownDevice name)
          | some (medium, id) => .ok {
              name
              backend := shelf.name
              id
              totalSectors := medium.totalSectors
              hasPartitions := true },
        shelf.note (.asked name)) := by
  change (if name ∈ shelf.broken then Action.refuse (.unreachable name)
    else match (shelf.diskNames.zip shelf.media.zipIdx).lookup name with
      | none => Action.refuse (.unknownDevice name)
      | some (medium, id) => pure {
          name
          backend := shelf.name
          id
          totalSectors := medium.totalSectors
          hasPartitions := true } : Action Shelf DiskError DiskHandle)
        (shelf.note (.asked name)) = _
  split
  · rfl
  · cases (shelf.diskNames.zip shelf.media.zipIdx).lookup name with
    | none => rfl
    | some found => rfl

/-- A shelf keeps its name beside the media. -/
theorem shelf : Truthful Shelf where
  signs := by
    intro name shelf disk opened
    change (Shelf.openDisk name shelf).1 = .ok disk at opened
    rw [shelf_openDisk] at opened
    simp only at opened
    split at opened
    · cases opened
    · split at opened
      · cases opened
      · cases opened
        rfl
  iterate hook seen shelf := congrArg Shelf.name (shelf_offerAll hook shelf.diskNames shelf seen)
  openDisk := by
    intro name shelf
    change (Shelf.openDisk name shelf).2.name = shelf.name
    rw [shelf_openDisk]
    rfl
  read := by
    intro disk sector buffer shelf
    change (Shelf.read disk sector { buffer, state := shelf }).2.state.name = shelf.name
    rw [Shelf.read]
    split <;> rfl
  write := by
    intro disk sector bytes shelf
    change (Shelf.write disk sector bytes shelf).2.name = shelf.name
    rw [Shelf.write]
    split <;> rfl
  close _ _ := rfl

/-- Backends of two truthful kinds. -/
theorem sum {α β : Type} [Backend α] [Backend β] (left : Truthful α) (right : Truthful β) :
    Truthful (α ⊕ β) where
  signs {name backend disk} opened := by
    cases backend with
    | inl backend => exact left.signs opened
    | inr backend => exact right.signs opened
  iterate hook seen backend := by
    cases backend with
    | inl backend => exact left.iterate hook seen backend
    | inr backend => exact right.iterate hook seen backend
  openDisk name backend := by
    cases backend with
    | inl backend => exact left.openDisk name backend
    | inr backend => exact right.openDisk name backend
  read disk sector buffer backend := by
    cases backend with
    | inl backend => exact left.read disk sector buffer backend
    | inr backend => exact right.read disk sector buffer backend
  write disk sector bytes backend := by
    cases backend with
    | inl backend => exact left.write disk sector bytes backend
    | inr backend => exact right.write disk sector bytes backend
  close disk backend := by
    cases backend with
    | inl backend => exact left.close disk backend
    | inr backend => exact right.close disk backend

end Truthful

end FirmwareDisk
