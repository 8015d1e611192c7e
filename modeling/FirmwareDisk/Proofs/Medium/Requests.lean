import FirmwareDisk.Proofs.Action
import FirmwareDisk.Proofs.Medium.Loading

set_option autoImplicit false

namespace FirmwareDisk

theorem sectorCount_ok {length count : Nat} (whole : sectorCount length = .ok count) :
    length = count * sectorSize := by
  unfold sectorCount at whole
  split at whole
  · rename_i even
    simp only [Except.ok.injEq] at whole
    rw [← whole, Nat.div_mul_cancel (Nat.dvd_of_mod_eq_zero even)]
  · cases whole

theorem sectorCount_of_mul {length count : Nat} (whole : length = count * sectorSize) :
    sectorCount length = .ok count := by
  have even : length % sectorSize = 0 := by rw [whole, Nat.mul_mod_left]
  have quotient : length / sectorSize = count := by rw [whole, Nat.mul_div_cancel _ (by decide)]
  rw [sectorCount, if_pos even, quotient]

theorem checkInside_ok {sector count capacity : Nat}
    (inside : checkInside sector count capacity = .ok ()) :
    sector + count < UInt64.size ∧ sector + count ≤ capacity := by
  unfold checkInside at inside
  split at inside
  · cases inside
  · split at inside
    · cases inside
    · omega

theorem requestedSectors_ok {sector length capacity count : Nat}
    (ok : requestedSectors sector length capacity = .ok count) :
    length = count * sectorSize ∧ sector + count < UInt64.size ∧ sector + count ≤ capacity := by
  unfold requestedSectors at ok
  cases counted : sectorCount length with
  | error cause =>
    rw [counted] at ok
    cases ok
  | ok whole =>
    rw [counted] at ok
    change (checkInside sector whole capacity >>= fun _ => pure whole) = .ok count at ok
    cases inside : checkInside sector whole capacity with
    | error cause =>
      rw [inside] at ok
      cases ok
    | ok =>
      rw [inside] at ok
      cases ok
      exact ⟨sectorCount_ok counted, checkInside_ok inside⟩

theorem requestedSectors_of_fits {sector length capacity count : Nat}
    (whole : length = count * sectorSize) (below : sector + count < UInt64.size)
    (fits : sector + count ≤ capacity) :
    requestedSectors sector length capacity = .ok count := by
  have inside : checkInside sector count capacity = .ok () := by
    rw [checkInside, if_neg (by omega), if_neg (by omega)]
  rw [requestedSectors, sectorCount_of_mul whole]
  change (checkInside sector count capacity >>= fun _ => pure count) = .ok count
  rw [inside]
  rfl

namespace Medium

/-- The bytes of a medium. -/
def flat (medium : Medium) : Flat :=
  match medium.store with
  | .memory disk => disk.flat
  | .image file => file.flat

/-- Media that differ in the bytes they hold, if at all. -/
def Alike (medium other : Medium) : Prop :=
  medium.badSectors = other.badSectors ∧
    match medium.store, other.store with
    | .memory disk, .memory other =>
      disk.totalSectors = other.totalSectors ∧ disk.readOnly = other.readOnly
    | .image file, .image other => file = other
    | _, _ => False

theorem Alike.refl (medium : Medium) : Alike medium medium := by
  unfold Alike
  cases medium.store <;> simp

theorem Alike.trans {first second third : Medium} (front : Alike first second)
    (back : Alike second third) : Alike first third := by
  obtain ⟨firstStore, firstBad⟩ := first
  obtain ⟨secondStore, secondBad⟩ := second
  obtain ⟨thirdStore, thirdBad⟩ := third
  unfold Alike at *
  cases firstStore <;> cases secondStore <;> cases thirdStore <;> simp_all

theorem Alike.totalSectors {medium other : Medium} (alike : Alike medium other) :
    BlockDevice.totalSectors medium = BlockDevice.totalSectors other := by
  obtain ⟨store, badSectors⟩ := medium
  obtain ⟨otherStore, otherBad⟩ := other
  obtain ⟨-, same⟩ := alike
  cases store with
  | memory disk =>
    cases otherStore with
    | memory otherDisk => exact same.1
    | image otherFile => exact same.elim
  | image file =>
    cases otherStore with
    | memory otherDisk => exact same.elim
    | image otherFile =>
      have equal : file = otherFile := same
      rw [equal]
      rfl

end Medium

/-- A run of whole sectors inside a device, that ends below the last 64-bit number. -/
def Inside (sector length capacity : Nat) : Prop :=
  ∃ count, length = count * sectorSize ∧ sector + count < UInt64.size ∧ sector + count ≤ capacity

theorem MemoryDisk.read_eq (sector : Nat) (lent : Lent MemoryDisk) :
    BlockDevice.read sector lent =
      match requestedSectors sector lent.buffer.length lent.state.totalSectors with
      | .error cause => (.error cause, lent)
      | .ok _ => (.ok (), { lent with
          buffer := lent.state.flat.slice (sector * sectorSize) lent.buffer.length }) := by
  simp only [BlockDevice.read]
  cases request : requestedSectors sector lent.buffer.length lent.state.totalSectors with
  | error cause => rfl
  | ok count =>
    have range := requestedSectors_ok request
    simp only [range.1, MemoryDisk.bytesAt_eq_slice]

theorem MemoryDisk.read_ends (disk : MemoryDisk) (sector : Nat) (buffer : Bytes) :
    Action.Ends (BlockDevice.read sector) { buffer, state := disk }
      (fun _ after => Inside sector buffer.length disk.totalSectors ∧
        after = { buffer := disk.flat.slice (sector * sectorSize) buffer.length, state := disk })
      (fun _ after => after = { buffer, state := disk })
      (fun _ _ => False) := by
  unfold Action.Ends
  rw [MemoryDisk.read_eq]
  cases request : requestedSectors sector buffer.length disk.totalSectors with
  | error cause => rfl
  | ok count => exact ⟨⟨count, requestedSectors_ok request⟩, rfl⟩

theorem MemoryDisk.write_ends (disk : MemoryDisk) (sector : Nat) (bytes : Bytes) :
    Action.Ends (BlockDevice.write sector bytes) disk
      (fun _ after => Inside sector bytes.length disk.totalSectors ∧
        after.totalSectors = disk.totalSectors ∧ after.readOnly = disk.readOnly ∧
        after.flat = disk.flat.patch (sector * sectorSize) bytes ∧ (bytes = [] → after = disk))
      (fun _ after => after = disk)
      (fun _ _ => False) := by
  unfold Action.Ends
  simp only [BlockDevice.write]
  by_cases readOnly : disk.readOnly
  · simp only [readOnly, ↓reduceIte]
  · simp only [readOnly, Bool.false_eq_true, ↓reduceIte]
    cases request : requestedSectors sector bytes.length disk.totalSectors with
    | error cause => rfl
    | ok count =>
      have range := requestedSectors_ok request
      refine ⟨⟨count, range⟩, disk.totalSectors_store _ _, by simpa using readOnly,
        disk.flat_store sector count bytes range.1, ?_⟩
      rintro rfl
      have zero : count = 0 := by
        simp only [List.length_nil, sectorSize] at range
        omega
      rw [zero]
      rfl

/-- What a host leaves in a buffer when it fails in the middle of a read: the bytes in front of the
one that it cannot read. -/
def ImageFile.BrokenOff (file : ImageFile) (start : Nat) (before after : Bytes) : Prop :=
  ∃ given cause, given < before.length ∧ file.faults.read (start + given) = some cause ∧
    after = Bytes.overlay before 0 (file.flat.slice start given)

theorem ImageFile.read_ends (file : ImageFile) (sector : Nat) (buffer : Bytes) :
    Action.Ends (BlockDevice.read sector) { buffer, state := file }
      (fun _ after => Inside sector buffer.length file.totalSectors ∧
        after = { buffer := file.flat.slice (sector * sectorSize) buffer.length, state := file })
      (fun _ after => after.state = file ∧
        (after.buffer = buffer ∨ file.BrokenOff (sector * sectorSize) buffer after.buffer))
      (fun _ _ => False) := by
  unfold Action.Ends
  rw [ImageFile.read_eq]
  cases request : requestedSectors sector buffer.length file.totalSectors with
  | error cause => exact ⟨rfl, .inl rfl⟩
  | ok count =>
    by_cases far : UInt64.size ≤ sector * sectorSize
    · simp only [far, ↓reduceIte]
      exact ⟨trivial, .inl trivial⟩
    · simp only [far, ↓reduceIte]
      cases lost : file.faults.seek (sector * sectorSize) with
      | some cause => exact ⟨rfl, .inl rfl⟩
      | none =>
        cases failed : file.failure? (sector * sectorSize) buffer.length with
        | none => exact ⟨⟨count, requestedSectors_ok request⟩, rfl⟩
        | some failure =>
          obtain ⟨room, -, fault⟩ := ImageFile.failure?_eq_some failed
          exact ⟨rfl, .inr ⟨failure.1, failure.2, room, fault, rfl⟩⟩

/-- A file that has given its bytes was read calmly. -/
theorem ImageFile.calm_of_read {file : ImageFile} {sector count : Nat} {buffer : Bytes}
    (asked : requestedSectors sector buffer.length file.totalSectors = .ok count)
    (granted : (readVia [] sector { buffer, state := file }).1 = .ok ()) :
    sector * sectorSize < UInt64.size ∧ file.Calm (sector * sectorSize) buffer.length := by
  change (BlockDevice.read sector { buffer, state := file }).1 = .ok () at granted
  rw [ImageFile.read_eq] at granted
  simp only [asked] at granted
  by_cases far : UInt64.size ≤ sector * sectorSize
  · simp only [far, ↓reduceIte, reduceCtorEq] at granted
  · simp only [far, ↓reduceIte] at granted
    cases lost : file.faults.seek (sector * sectorSize) with
    | some cause => simp only [lost, reduceCtorEq] at granted
    | none =>
      cases failed : file.failure? (sector * sectorSize) buffer.length with
      | none => exact ⟨Nat.lt_of_not_le far, lost, ImageFile.failure?_eq_none_iff.mp failed⟩
      | some failure => simp only [lost, failed, reduceCtorEq] at granted

namespace Medium

def BrokenOff (medium : Medium) (start : Nat) (before after : Bytes) : Prop :=
  ∃ file, medium.store = .image file ∧ file.BrokenOff start before after

theorem BrokenOff.length_eq {medium : Medium} {start : Nat} {before after : Bytes}
    (broken : medium.BrokenOff start before after) : after.length = before.length := by
  obtain ⟨_, _, _, _, _, _, rfl⟩ := broken
  exact Bytes.length_overlay ..

theorem readStore_ends (medium : Medium) (sector : Nat) (buffer : Bytes) :
    Action.Ends (readStore sector) { buffer, state := medium.store }
      (fun _ after => Inside sector buffer.length medium.totalSectors ∧
        after = {
          buffer := medium.flat.slice (sector * sectorSize) buffer.length
          state := medium.store })
      (fun _ after => after.state = medium.store ∧
        (after.buffer = buffer ∨ medium.BrokenOff (sector * sectorSize) buffer after.buffer))
      (fun _ _ => False) := by
  obtain ⟨store, badSectors⟩ := medium
  cases store with
  | memory disk =>
    refine .through (fun after => { buffer := after.buffer, state := .memory after.state }) rfl
      ((disk.read_ends sector buffer).mono ?_ ?_)
    · rintro _ _ ⟨inside, rfl⟩
      exact ⟨inside, rfl⟩
    · rintro _ _ rfl
      exact ⟨rfl, .inl rfl⟩
  | image file =>
    refine .through (fun after => { buffer := after.buffer, state := .image after.state }) rfl
      ((file.read_ends sector buffer).mono ?_ ?_)
    · rintro _ _ ⟨inside, rfl⟩
      exact ⟨inside, rfl⟩
    · rintro _ _ ⟨same, left⟩
      exact ⟨congrArg Store.image same, left.imp_right fun broken => ⟨file, rfl, broken⟩⟩

theorem read_ends (medium : Medium) (sector : Nat) (buffer : Bytes) :
    Action.Ends (BlockDevice.read sector) { buffer, state := medium }
      (fun _ after => Inside sector buffer.length medium.totalSectors ∧
        after = { buffer := medium.flat.slice (sector * sectorSize) buffer.length, state := medium })
      (fun _ after => after.state = medium ∧
        (after.buffer = buffer ∨ medium.BrokenOff (sector * sectorSize) buffer after.buffer))
      (fun _ _ => False) := by
  by_cases bad : medium.touchesBad sector buffer.length
  · unfold Action.Ends
    simp only [BlockDevice.read, bad, ↓reduceIte]
    exact ⟨trivial, .inl trivial⟩
  · refine .through
      (fun after => { buffer := after.buffer, state := { medium with store := after.state } })
      ?_ ((medium.readStore_ends sector buffer).mono ?_ ?_)
    · simp only [BlockDevice.read, bad, Bool.false_eq_true, ↓reduceIte]
    · rintro _ _ ⟨inside, rfl⟩
      exact ⟨inside, rfl⟩
    · rintro _ _ ⟨same, left⟩
      exact ⟨congrArg (Medium.mk · medium.badSectors) same, left⟩

theorem write_ends (medium : Medium) (sector : Nat) (bytes : Bytes) :
    Action.Ends (BlockDevice.write sector bytes) medium
      (fun _ after => Inside sector bytes.length medium.totalSectors ∧ after.Alike medium ∧
        after.flat = medium.flat.patch (sector * sectorSize) bytes ∧ (bytes = [] → after = medium))
      (fun _ after => after = medium)
      (fun _ _ => False) := by
  by_cases bad : medium.touchesBad sector bytes.length
  · unfold Action.Ends
    simp only [BlockDevice.write, bad, ↓reduceIte]
  · obtain ⟨store, badSectors⟩ := medium
    cases store with
    | memory disk =>
      refine .through (fun after => { store := .memory after, badSectors }) ?_
        ((disk.write_ends sector bytes).mono ?_ ?_)
      · simp only [BlockDevice.write, bad, Bool.false_eq_true, ↓reduceIte, writeStore]
      · rintro _ _ ⟨inside, total, readOnly, flat, untouched⟩
        exact ⟨inside, ⟨rfl, total, readOnly⟩, flat, fun empty => by rw [untouched empty]⟩
      · rintro _ _ rfl
        rfl
    | image file =>
      unfold Action.Ends
      simp only [BlockDevice.write, bad, Bool.false_eq_true, ↓reduceIte, writeStore]

end Medium

end FirmwareDisk
