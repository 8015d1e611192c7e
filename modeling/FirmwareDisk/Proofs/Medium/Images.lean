import FirmwareDisk.Proofs.Medium.Requests
import FirmwareDisk.Proofs.Medium.Sparse
import Mathlib.Algebra.Group.Nat.Defs

set_option autoImplicit false

namespace FirmwareDisk.ImageFile

def contents (file : ImageFile) : Bytes :=
  file.bytesFrom 0 file.byteLength

@[simp] theorem length_contents (file : ImageFile) : file.contents.length = file.byteLength := by
  rw [contents, length_bytesFrom, Nat.sub_zero, Nat.min_self]

theorem byte_contents (file : ImageFile) : Bytes.byte file.contents = file.flat := by
  funext offset
  rw [Bytes.byte, List.getD_eq_getElem?_getD, flat]
  by_cases inside : offset < file.byteLength
  · rw [if_pos inside, List.getElem?_eq_getElem (by rwa [length_contents]), Option.getD_some]
    simp only [contents, bytesFrom, List.getElem_map, List.getElem_range, Nat.zero_add]
  · rw [if_neg inside, List.getElem?_eq_none (by rw [length_contents]; omega), Option.getD_none]

theorem flat_ofBytes_contents (file : ImageFile) :
    (MemoryDisk.ofBytes file.contents).flat = file.flat := by
  rw [MemoryDisk.flat_ofBytes, byte_contents]

theorem totalSectors_ofBytes_contents (file : ImageFile) :
    (MemoryDisk.ofBytes file.contents).totalSectors = file.totalSectors := by
  rw [MemoryDisk.ofBytes, MemoryDisk.totalSectors_storeNonzero, length_contents, totalSectors]

def padded (file : ImageFile) : Bytes :=
  file.contents ++ Bytes.zeros (file.totalSectors * sectorSize - file.byteLength)

theorem padded_eq_slice (file : ImageFile) :
    file.padded = file.flat.slice 0 (file.totalSectors * sectorSize) := by
  have holds : file.contents.length ≤ file.totalSectors * sectorSize := by
    rw [length_contents, totalSectors, sectorsToHold]
    simp only [sectorSize]
    omega
  rw [padded, ← byte_contents, Flat.slice_byte file.contents holds, length_contents]

theorem slice_padded {file : ImageFile} {sector length count : Nat}
    (asked : requestedSectors sector length file.totalSectors = .ok count) :
    Bytes.slice file.padded (sector * sectorSize) length =
      file.flat.slice (sector * sectorSize) length := by
  obtain ⟨whole, -, fits⟩ := requestedSectors_ok asked
  have inside : sector * sectorSize + length ≤ file.totalSectors * sectorSize := by
    rw [whole, ← Nat.add_mul]
    exact Nat.mul_le_mul_right _ fits
  have taken : file.padded.take (file.totalSectors * sectorSize) =
      file.flat.slice 0 (file.totalSectors * sectorSize) := by
    rw [padded_eq_slice, List.take_of_length_le (Nat.le_of_eq (Flat.length_slice ..))]
  rw [Flat.slice_of_take taken inside, Nat.zero_add]

theorem offset_lt {file : ImageFile} {sector length count : Nat}
    (short : file.byteLength < 2 ^ 63)
    (asked : requestedSectors sector length file.totalSectors = .ok count) :
    sector * sectorSize < UInt64.size := by
  obtain ⟨-, -, fits⟩ := requestedSectors_ok asked
  have limit : UInt64.size = 2 ^ 64 := rfl
  rw [totalSectors, sectorsToHold] at fits
  simp only [sectorSize] at fits ⊢
  omega

/-- A short file is read like the memory disk of its bytes where the host does not fail. -/
theorem readVia_eq_read {file : ImageFile} (short : file.byteLength < 2 ^ 63)
    (replies : List HostReply) {sector : Nat} {buffer : Bytes}
    (calm : file.Calm (sector * sectorSize) buffer.length) :
    readVia replies sector { buffer, state := file } =
      ((BlockDevice.read sector { buffer, state := MemoryDisk.ofBytes file.contents }).1,
        { buffer :=
            (BlockDevice.read sector { buffer, state := MemoryDisk.ofBytes file.contents }).2.buffer
          state := file }) := by
  rw [readVia_eq _ _ _ calm, MemoryDisk.read_eq]
  simp only [totalSectors_ofBytes_contents, flat_ofBytes_contents]
  cases asked : requestedSectors sector buffer.length file.totalSectors with
  | error cause => rfl
  | ok count =>
    dsimp only
    rw [if_neg (Nat.not_le.mpr (offset_lt short asked))]

/-- An image file of less than 2 ^ 63 bytes and the memory disk of its bytes are of the same size,
and every read on which the host does not fail ends on both in the same way and with the same bytes
in the buffer, however few of them the host gives at a time. Either these are the bytes of the file, filled up with zeros to whole
sectors, and nothing that was in the buffer before; or the read is refused, and the buffer is as it
was. -/
theorem read_like_memory (file : ImageFile) (short : file.byteLength < 2 ^ 63) :
    BlockDevice.totalSectors file =
        BlockDevice.totalSectors (MemoryDisk.ofBytes file.contents) ∧
      ∀ (replies : List HostReply) (sector : Nat) (buffer : Bytes),
        file.Calm (sector * 512) buffer.length →
        let fromFile := readVia replies sector { buffer, state := file }
        let fromMemory :=
          BlockDevice.read sector { buffer, state := MemoryDisk.ofBytes file.contents }
        fromFile.1 = fromMemory.1 ∧ fromFile.2.buffer = fromMemory.2.buffer ∧
          fromFile = BlockDevice.read sector { buffer, state := file } ∧
          fromFile.2.state = file ∧ fromMemory.2.state = MemoryDisk.ofBytes file.contents ∧
          (fromFile.1 = .ok () ∧
              fromFile.2.buffer = Bytes.slice file.padded (sector * 512) buffer.length ∨
            ∃ cause, fromFile.1 = .error cause ∧ fromFile.2.buffer = buffer) := by
  constructor
  · exact (totalSectors_ofBytes_contents file).symm
  intro replies sector buffer calm fromFile fromMemory
  have alike : fromFile = (fromMemory.1, { buffer := fromMemory.2.buffer, state := file }) :=
    readVia_eq_read short replies calm
  have whole : BlockDevice.read sector { buffer, state := file } =
      ((fromMemory.1, { buffer := fromMemory.2.buffer, state := file }) :
        Outcome DiskError Unit × Lent ImageFile) := readVia_eq_read short [] calm
  have ends : fromMemory = _ := MemoryDisk.read_eq sector _
  rw [whole, alike]
  simp only [totalSectors_ofBytes_contents, flat_ofBytes_contents] at ends
  cases asked : requestedSectors sector buffer.length file.totalSectors with
  | error cause =>
    rw [asked] at ends
    rw [ends]
    exact ⟨rfl, rfl, rfl, rfl, rfl, Or.inr ⟨cause, rfl, rfl⟩⟩
  | ok count =>
    rw [asked] at ends
    rw [ends]
    exact ⟨rfl, rfl, rfl, rfl, rfl, Or.inl ⟨rfl, (slice_padded asked).symm⟩⟩

/-- A file of a sector and three bytes. -/
def oddImage : ImageFile where
  path := "odd"
  byteLength := 515
  byteAt := fun offset => UInt8.ofNat (offset + 1)

/-- The last sector of that file from a host that gives the first byte alone, and is interrupted. -/
theorem read_like_memory_odd :
    oddImage.byteLength < 2 ^ 63 ∧
      (readVia [.gives 0, .interrupted] 1
        { buffer := List.replicate 512 0xff, state := oddImage }).2.buffer =
          (BlockDevice.read 1 {
            buffer := List.replicate 512 0xff
            state := MemoryDisk.ofBytes oddImage.contents }).2.buffer ∧
      (readVia [.gives 0, .interrupted] 1
        { buffer := List.replicate 512 0xff, state := oddImage }).2.buffer =
          [1, 2, 3] ++ List.replicate 509 0 := by
  have short : oddImage.byteLength < 2 ^ 63 := by decide
  have alike := (read_like_memory oddImage short).2 [.gives 0, .interrupted] 1
    (List.replicate 512 0xff) (calm_of_faultless rfl _ _)
  exact ⟨short, alike.2.1, by decide +kernel⟩

end FirmwareDisk.ImageFile
