import FirmwareDisk.Proofs.BlockDevice
import FirmwareDisk.Proofs.Medium.Requests
import Mathlib.Algebra.Group.Nat.Defs

set_option autoImplicit false

namespace FirmwareDisk

namespace BlockDevice

/-- Reads a run of bytes by way of the whole sectors around it, even if it consists of such. -/
def readAround {δ : Type} [BlockDevice δ] (sector offset : Nat) : Action (Lent δ) DiskError Unit :=
  fun lent =>
    let length := lent.buffer.length
    let around := Bytes.zeros (sectorsToHold (offset % sectorSize + length) * sectorSize)
    match read (sector + offset / sectorSize) { buffer := around, state := lent.state } with
    | (.ok (), after) => (.ok (), {
        buffer := Bytes.slice after.buffer (offset % sectorSize) length
        state := after.state })
    | (.error cause, after) => (.error cause, { lent with state := after.state })
    | (.fault reason, after) => (.fault reason, { lent with state := after.state })

/-- The sectors around a run are inside a device exactly if the run is. -/
theorem around_inside (sector offset length total : Nat) :
    sector + offset / sectorSize + sectorsToHold (offset % sectorSize + length) ≤ total ↔
      sector * sectorSize + offset + length ≤ total * sectorSize := by
  simp only [sectorsToHold, sectorSize]
  omega

end BlockDevice

namespace MemoryDisk

variable {disk : MemoryDisk}

theorem read_of_fits {sector count : Nat} {buffer : Bytes} (counted : disk.totalSectors < UInt64.size)
    (whole : buffer.length = count * sectorSize) (fits : sector + count ≤ disk.totalSectors) :
    BlockDevice.read sector { buffer, state := disk } =
      ((.ok (), {
        buffer := disk.flat.slice (sector * sectorSize) (count * sectorSize)
        state := disk }) : Outcome DiskError Unit × Lent MemoryDisk) := by
  have asked : requestedSectors sector buffer.length disk.totalSectors = .ok count :=
    requestedSectors_of_fits whole (Nat.lt_of_le_of_lt fits counted) fits
  rw [whole] at asked
  rw [read_eq]
  simp only [whole, asked]

theorem read_of_outside {sector count : Nat} {buffer : Bytes}
    (whole : buffer.length = count * sectorSize) (outside : ¬ sector + count ≤ disk.totalSectors) :
    ∃ cause, BlockDevice.read sector { buffer, state := disk } =
      ((.error cause, { buffer, state := disk }) : Outcome DiskError Unit × Lent MemoryDisk) := by
  rw [read_eq]
  cases asked : requestedSectors sector buffer.length disk.totalSectors with
  | error cause => exact ⟨cause, rfl⟩
  | ok other =>
    obtain ⟨same, -, fits⟩ := requestedSectors_ok asked
    have equal : count = other := Nat.eq_of_mul_eq_mul_right (by decide) (whole.symm.trans same)
    exact absurd (equal ▸ fits) outside

/-- Going by way of the sectors around makes no difference, not even where a run is refused. -/
theorem readBytes_eq_readAround {buffer : Bytes} (nonempty : buffer ≠ []) (sector offset : Nat) :
    BlockDevice.readBytes sector offset { buffer, state := disk } =
      BlockDevice.readAround sector offset { buffer, state := disk } := by
  have present : buffer.length ≠ 0 := fun empty => nonempty (List.length_eq_zero_iff.mp empty)
  have zeros (length : Nat) : (Bytes.zeros length).length = length := List.length_replicate
  unfold BlockDevice.readBytes BlockDevice.readAround
  simp only [present, ↓reduceIte]
  by_cases far : UInt64.size ≤ sector + offset / sectorSize
  · have beyond (count : Nat) : UInt64.size ≤ sector + offset / sectorSize + count :=
      Nat.le_add_right_of_le far
    have refused (count : Nat) : requestedSectors (sector + offset / sectorSize)
        (count * sectorSize) disk.totalSectors = .error .offsetOverflow := by
      rw [requestedSectors, sectorCount_of_mul rfl]
      change (checkInside _ count _ >>= fun _ => pure count) = _
      rw [checkInside, if_pos (beyond count)]
      rfl
    simp only [far, ↓reduceIte, read_eq, zeros, refused]
  · simp only [far, ↓reduceIte]
    by_cases aligned : offset % sectorSize = 0 ∧ buffer.length % sectorSize = 0
    · have whole := BlockDevice.sectorsToHold_of_aligned aligned.2
      simp only [aligned, and_self, ↓reduceIte, Nat.zero_add, read_eq, zeros, whole]
      cases requestedSectors (sector + offset / sectorSize) buffer.length disk.totalSectors with
      | error cause => rfl
      | ok count =>
        have all : Bytes.slice (disk.flat.slice ((sector + offset / sectorSize) * sectorSize)
            buffer.length) 0 buffer.length =
              disk.flat.slice ((sector + offset / sectorSize) * sectorSize) buffer.length :=
          List.take_of_length_le (Nat.le_of_eq (Flat.length_slice ..))
        simp only [all]
    · rcases BlockDevice.read (sector + offset / sectorSize)
          { buffer := Bytes.zeros (sectorsToHold (offset % sectorSize + buffer.length) * sectorSize)
            state := disk } with ⟨_ | _ | _, _⟩ <;> simp only [aligned, ↓reduceIte]

/-- A run of bytes is read exactly if it is inside the disk, or empty. -/
theorem readBytes_decided (counted : disk.totalSectors < UInt64.size) (sector offset : Nat)
    (buffer : Bytes) :
    let run := BlockDevice.readBytes sector offset { buffer, state := disk }
    let inside := buffer.length = 0 ∨
      sector * sectorSize + offset + buffer.length ≤ disk.totalSectors * sectorSize
    (inside ∧ run = (.ok (), {
        buffer := disk.flat.slice (sector * sectorSize + offset) buffer.length
        state := disk })) ∨
      (¬ inside ∧ ∃ cause, run = (.error cause, { buffer, state := disk })) := by
  intro run inside
  by_cases nothing : buffer.length = 0
  · have empty : buffer = [] := List.length_eq_zero_iff.mp nothing
    refine Or.inl ⟨Or.inl nothing, ?_⟩
    simp only [run, empty]
    rfl
  · have present : 0 < buffer.length := Nat.pos_of_ne_zero nothing
    have around : run = BlockDevice.readAround sector offset { buffer, state := disk } :=
      readBytes_eq_readAround (List.length_pos_iff.mp present) sector offset
    have whole : (Bytes.zeros (sectorsToHold (offset % sectorSize + buffer.length) *
        sectorSize)).length = sectorsToHold (offset % sectorSize + buffer.length) * sectorSize :=
      List.length_replicate
    by_cases fits : sector * sectorSize + offset + buffer.length ≤ disk.totalSectors * sectorSize
    · refine Or.inl ⟨Or.inr fits, ?_⟩
      have read := read_of_fits counted whole
        ((BlockDevice.around_inside sector offset buffer.length disk.totalSectors).mpr fits)
      have start : (sector + offset / sectorSize) * sectorSize + offset % sectorSize =
          sector * sectorSize + offset := by
        simp only [sectorSize]
        omega
      rw [around]
      simp only [BlockDevice.readAround, read]
      rw [← start, Flat.slice_of_take (List.take_of_length_le (Nat.le_of_eq (Flat.length_slice ..)))
        (BlockDevice.le_sectorsToHold _)]
    · refine Or.inr ⟨not_or.mpr ⟨nothing, fits⟩, ?_⟩
      have outside := mt
        (BlockDevice.around_inside sector offset buffer.length disk.totalSectors).mp fits
      obtain ⟨cause, read⟩ := read_of_outside whole outside
      refine ⟨cause, ?_⟩
      rw [around]
      simp only [BlockDevice.readAround, read]

theorem readBytes_ok_iff (counted : disk.totalSectors < UInt64.size) (sector offset : Nat)
    (buffer : Bytes) :
    (BlockDevice.readBytes sector offset { buffer, state := disk }).1 = .ok () ↔
      buffer.length = 0 ∨
        sector * sectorSize + offset + buffer.length ≤ disk.totalSectors * sectorSize := by
  obtain ⟨inside, run⟩ | ⟨outside, cause, run⟩ := readBytes_decided counted sector offset buffer
  · rw [run]
    exact ⟨fun _ => inside, fun _ => rfl⟩
  · rw [run]
    exact ⟨nofun, fun inside => (outside inside).elim⟩

theorem readBytes_of_ok (counted : disk.totalSectors < UInt64.size) {sector offset : Nat}
    {buffer : Bytes}
    (granted : (BlockDevice.readBytes sector offset { buffer, state := disk }).1 = .ok ()) :
    (BlockDevice.readBytes sector offset { buffer, state := disk }).2.buffer =
      disk.flat.slice (sector * sectorSize + offset) buffer.length := by
  obtain ⟨-, run⟩ | ⟨-, cause, run⟩ := readBytes_decided counted sector offset buffer
  · rw [run]
  · rw [run] at granted
    cases granted

/-- Two pieces side by side are read exactly if the whole run is, and hold the same bytes. -/
theorem readBytes_append (counted : disk.totalSectors < UInt64.size) {sector offset : Nat}
    {next beyond : Nat} {front back : Bytes}
    (adjacent : next * sectorSize + beyond = sector * sectorSize + offset + front.length) :
    let run := BlockDevice.readBytes sector offset { buffer := front ++ back, state := disk }
    let first := BlockDevice.readBytes sector offset { buffer := front, state := disk }
    let second := BlockDevice.readBytes next beyond { buffer := back, state := disk }
    (run.1 = .ok () ↔ first.1 = .ok () ∧ second.1 = .ok ()) ∧
      (run.1 = .ok () → run.2.buffer = first.2.buffer ++ second.2.buffer) := by
  intro run first second
  have split : run.1 = .ok () ↔ first.1 = .ok () ∧ second.1 = .ok () := by
    simp only [run, first, second, readBytes_ok_iff counted, List.length_append]
    omega
  refine ⟨split, ?_⟩
  intro granted
  obtain ⟨former, latter⟩ := split.mp granted
  rw [readBytes_of_ok counted granted, readBytes_of_ok counted former, readBytes_of_ok counted latter,
    List.length_append, Flat.slice_add, adjacent]

theorem slice_bytesAt {start length : Nat} (inside : start + length ≤ disk.totalSectors * sectorSize) :
    Bytes.slice (disk.bytesAt 0 disk.totalSectors) start length = disk.flat.slice start length := by
  have all : disk.bytesAt 0 disk.totalSectors =
      disk.flat.slice 0 (disk.totalSectors * sectorSize) := by
    rw [bytesAt_eq_slice, Nat.zero_mul]
  rw [all, Flat.slice_of_take (List.take_of_length_le (Nat.le_of_eq (Flat.length_slice ..))) inside,
    Nat.zero_add]

/-- Reading any run of bytes of a memory disk, be they whole sectors or not. An empty run is always
read, and any other one exactly if it ends inside the disk, even if its sector leaves 64 bits on the
way. The bytes are those of the run in the array of all bytes of the disk; a refused read leaves the
buffer as it was. Going by way of the sectors around makes no difference, and the bytes of these are
no more than 64 bits can count, as long as the buffer is one that fits into half an address space.
Neither does reading the run in two pieces, whatever sector and offset the second one is counted
from. -/
theorem runs_are_slices (disk : MemoryDisk) (counted : disk.totalSectors < UInt64.size)
    (sector offset : Nat) (buffer : Bytes) :
    let contents := disk.bytesAt 0 disk.totalSectors
    let start := sector * 512 + offset
    let run := BlockDevice.readBytes sector offset { buffer, state := disk }
    contents.length = disk.totalSectors * 512 ∧
      (buffer = [] → run.1 = .ok ()) ∧
      (buffer ≠ [] → (run.1 = .ok () ↔ start + buffer.length ≤ disk.totalSectors * 512)) ∧
      (run.1 = .ok () → run.2.buffer = Bytes.slice contents start buffer.length) ∧
      (run.1 ≠ .ok () → ∃ cause, run.1 = .error cause ∧ run.2.buffer = buffer) ∧
      run.2.state = disk ∧
      (buffer ≠ [] → run = BlockDevice.readAround sector offset { buffer, state := disk }) ∧
      (buffer.length < 2 ^ 63 →
        sectorsToHold (offset % 512 + buffer.length) * 512 < 2 ^ 64) ∧
      ∀ (front back : Bytes) (sector' offset' : Nat), buffer = front ++ back →
        sector' * 512 + offset' = start + front.length →
        let first := BlockDevice.readBytes sector offset { buffer := front, state := disk }
        let second := BlockDevice.readBytes sector' offset' { buffer := back, state := disk }
        (run.1 = .ok () ↔ first.1 = .ok () ∧ second.1 = .ok ()) ∧
          (run.1 = .ok () → run.2.buffer = first.2.buffer ++ second.2.buffer) := by
  intro contents start run
  have granted := readBytes_ok_iff counted sector offset buffer
  -- Where a run ends decides all of it: inside the disk it is a slice, outside it is refused.
  have decided := readBytes_decided counted sector offset buffer
  refine ⟨?_, ?_, ?_, ?_, ?_, ?_, ?_, ?_, ?_⟩
  · simp only [contents, bytesAt_eq_slice, Flat.length_slice]
  · intro empty
    exact granted.mpr (Or.inl (List.length_eq_zero_iff.mpr empty))
  · intro nonempty
    have present := List.length_pos_iff.mpr nonempty
    apply granted.trans
    simp only [start, sectorSize]
    omega
  · intro success
    rw [readBytes_of_ok counted success]
    by_cases empty : buffer.length = 0
    · rw [empty, Bytes.slice, List.take_zero]
      rfl
    · exact (slice_bytesAt ((granted.mp success).resolve_left empty)).symm
  · intro refused
    obtain ⟨-, same⟩ | ⟨-, cause, same⟩ := decided
    · exact (refused (congrArg Prod.fst same)).elim
    · exact ⟨cause, congrArg Prod.fst same, congrArg (·.2.buffer) same⟩
  · obtain ⟨-, same⟩ | ⟨-, cause, same⟩ := decided
    · exact congrArg (·.2.state) same
    · exact congrArg (·.2.state) same
  · intro nonempty
    exact readBytes_eq_readAround nonempty sector offset
  · intro short
    simp only [sectorsToHold, sectorSize]
    omega
  · rintro front back next beyond rfl adjacent
    exact readBytes_append counted adjacent

def pairDisk : MemoryDisk :=
  .ofBytes (List.replicate 512 1 ++ List.replicate 512 2)

/-- The four bytes around the middle of it, in one go and in pieces of one and three. -/
theorem runs_are_slices_pair :
    pairDisk.totalSectors < UInt64.size ∧
      (BlockDevice.readBytes 0 510 { buffer := [0, 0, 0, 0], state := pairDisk }).1 = .ok () ∧
      (BlockDevice.readBytes 0 510 { buffer := [0, 0, 0, 0], state := pairDisk }).2.buffer =
        (BlockDevice.readBytes 0 510 { buffer := [0], state := pairDisk }).2.buffer ++
          (BlockDevice.readBytes 0 511 { buffer := [0, 0, 0], state := pairDisk }).2.buffer ∧
      (BlockDevice.readBytes 0 510 { buffer := [0, 0, 0, 0], state := pairDisk }).2.buffer =
        [1, 1, 2, 2] := by
  have counted : pairDisk.totalSectors < UInt64.size := by decide +kernel
  obtain ⟨-, -, decided, -, -, -, -, -, pieces⟩ :=
    runs_are_slices pairDisk counted 0 510 [0, 0, 0, 0]
  have granted := (decided nofun).mpr (by decide +kernel)
  exact ⟨counted, granted, (pieces [0] [0, 0, 0] 0 511 rfl rfl).2 granted, by decide +kernel⟩

end MemoryDisk

end FirmwareDisk
