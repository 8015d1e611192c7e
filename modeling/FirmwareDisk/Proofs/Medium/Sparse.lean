import FirmwareDisk.Proofs.Medium.Flat

set_option autoImplicit false

namespace FirmwareDisk

/-- Bytes filled up with zeros are a slice of what follows them. -/
theorem Flat.slice_byte (bytes : Bytes) {length : Nat} (holds : bytes.length ≤ length) :
    Flat.slice (Bytes.byte bytes) 0 length =
      bytes ++ Bytes.zeros (length - bytes.length) := by
  apply List.ext_getElem
  · rw [Flat.length_slice, List.length_append, Bytes.zeros, List.length_replicate]
    omega
  · intro index sliced padded
    rw [Flat.getElem_slice, Nat.zero_add, Bytes.byte, List.getD_eq_getElem?_getD]
    by_cases present : index < bytes.length
    · rw [List.getElem_append_left present, List.getElem?_eq_getElem present, Option.getD_some]
    · have behind : bytes.length ≤ index := Nat.not_lt.mp present
      rw [List.getElem_append_right behind, List.getElem?_eq_none behind, Option.getD_none]
      simp only [Bytes.zeros, List.getElem_replicate]

namespace Sector

theorem eq_zero_of_isZero {contents : Sector} (zeros : contents.isZero = true) :
    contents = zero := by
  rw [isZero, List.all_eq_true] at zeros
  apply Sector.ext
  apply List.eq_replicate_iff.mpr
  exact ⟨contents.length_bytes, fun byte listed => eq_of_beq (zeros byte listed)⟩

theorem isZero_zero : zero.isZero = true := by
  simp only [isZero, zero, Bytes.zeros, List.all_replicate, beq_self_eq_true,
    ite_self]

theorem byte_zero (within : Nat) : Bytes.byte zero.bytes within = 0 := by
  simp only [zero, Bytes.zeros, Bytes.byte, List.getD_eq_getElem?_getD,
    List.getElem?_replicate]
  split <;> rfl

/-- A sector of a byte string holds the bytes of the string, and zeros behind them. -/
theorem byte_getElem (count : Nat) (bytes : Bytes) (index within : Nat)
    (listed : index < (listOfBytes count bytes).length) (inside : within < sectorSize) :
    Bytes.byte (listOfBytes count bytes)[index].bytes within =
      Bytes.byte bytes (index * sectorSize + within) := by
  by_cases present : index * sectorSize + within < bytes.length
  · rw [byte_listOfBytes count bytes index within listed inside present, Bytes.byte,
      List.getD_eq_getElem?_getD, List.getElem?_eq_getElem present, Option.getD_some]
  · have short : ((bytes.drop (index * sectorSize)).take sectorSize).length ≤ within := by
      simp only [List.length_take, List.length_drop]
      omega
    simp only [listOfBytes, List.getElem_map, Bytes.getElem_pieces, ofBytes,
      List.take_take, Nat.min_self, Bytes.byte, List.getD_eq_getElem?_getD,
      List.getElem?_append_right short, Bytes.zeros, List.getElem?_replicate,
      List.getElem?_eq_none (Nat.not_lt.mp present), Option.getD_none]
    split <;> rfl

end Sector

namespace MemoryDisk

theorem mem_store (disk : MemoryDisk) (first : Nat) (contents : List Sector) (sector : Nat) :
    sector ∈ (disk.store first contents).stored ↔
      (first ≤ sector ∧ sector < first + contents.length) ∨ sector ∈ disk.stored := by
  induction contents generalizing disk first with
  | nil =>
    simp only [store, List.length_nil]
    constructor
    · exact Or.inr
    · intro cases
      rcases cases with unstored | stored
      · omega
      · exact stored
  | cons head rest ih =>
    simp only [store, ih, Std.TreeMap.mem_insert, Std.LawfulEqCmp.compare_eq_iff_eq,
      List.length_cons]
    constructor
    · intro cases
      rcases cases with later | here | stored
      · left
        omega
      · left
        omega
      · right
        exact stored
    · intro cases
      rcases cases with range | stored
      · by_cases here : first = sector
        · right
          left
          exact here
        · left
          omega
      · right
        right
        exact stored

theorem storeNonzero_cons (disk : MemoryDisk) (first : Nat) (head : Sector) (rest : List Sector) :
    disk.storeNonzero first (head :: rest) =
      (if head.isZero then disk
        else { disk with stored := disk.stored.insert first head }).storeNonzero
          (first + 1) rest := by
  rw [storeNonzero]
  split <;> rfl

@[simp] theorem totalSectors_storeNonzero (disk : MemoryDisk) (first : Nat)
    (contents : List Sector) :
    (disk.storeNonzero first contents).totalSectors = disk.totalSectors := by
  induction contents generalizing disk first with
  | nil => rfl
  | cons head rest ih => rw [storeNonzero, ih]

@[simp] theorem readOnly_storeNonzero (disk : MemoryDisk) (first : Nat)
    (contents : List Sector) :
    (disk.storeNonzero first contents).readOnly = disk.readOnly := by
  induction contents generalizing disk first with
  | nil => rfl
  | cons head rest ih => rw [storeNonzero, ih]

/-- Sectors of zeros are passed over, but they read as if they had been stored. -/
theorem sectorAt_storeNonzero (disk : MemoryDisk) (first : Nat) (contents : List Sector)
    (vacant : ∀ sector, first ≤ sector → disk.sectorAt sector = Sector.zero) (sector : Nat) :
    (disk.storeNonzero first contents).sectorAt sector =
      (disk.store first contents).sectorAt sector := by
  induction contents generalizing disk first with
  | nil => rfl
  | cons head rest ih =>
    have behind : ∀ other, first + 1 ≤ other →
        sectorAt { disk with stored := disk.stored.insert first head } other = Sector.zero := by
      intro other above
      rw [sectorAt_insert, if_neg (by omega)]
      exact vacant other (by omega)
    rw [storeNonzero_cons, store]
    split
    · rename_i zeros
      rw [ih disk (first + 1) fun other above => vacant other (by omega), sectorAt_store,
        sectorAt_store, sectorAt_insert]
      by_cases here : sector = first
      · rw [if_pos here, here, vacant first (Nat.le_refl _), Sector.eq_zero_of_isZero zeros]
      · rw [if_neg here]
    · exact ih _ (first + 1) behind

/-- A disk that holds storage just for sectors of other bytes than zeros goes on so. -/
theorem mem_storeNonzero (disk : MemoryDisk) (first : Nat) (contents : List Sector)
    (sparse : ∀ sector, sector ∈ disk.stored ↔ (disk.sectorAt sector).isZero = false)
    (sector : Nat) :
    sector ∈ (disk.storeNonzero first contents).stored ↔
      ((disk.storeNonzero first contents).sectorAt sector).isZero = false := by
  induction contents generalizing disk first with
  | nil => exact sparse sector
  | cons head rest ih =>
    rw [storeNonzero_cons]
    split
    · exact ih disk (first + 1) sparse
    · rename_i nonzero
      apply ih _ (first + 1)
      intro other
      rw [sectorAt_insert]
      simp only [Std.TreeMap.mem_insert, Std.LawfulEqCmp.compare_eq_iff_eq, sparse]
      by_cases here : other = first
      · simp only [here, ↓reduceIte, true_or, true_iff]
        exact eq_false_of_ne_true nonzero
      · simp only [here, Ne.symm here, ↓reduceIte, false_or]

theorem sectorAt_empty (total sector : Nat) :
    ({ totalSectors := total } : MemoryDisk).sectorAt sector = Sector.zero := by
  simp only [sectorAt, Std.TreeMap.getElem?_emptyc, Option.getD_none]

theorem empty_sparse (total sector : Nat) :
    sector ∈ ({ totalSectors := total } : MemoryDisk).stored ↔
      (({ totalSectors := total } : MemoryDisk).sectorAt sector).isZero = false := by
  rw [sectorAt_empty, Sector.isZero_zero]
  simp only [Bool.true_eq_false, iff_false]
  exact Std.TreeMap.not_mem_emptyc

theorem sectorAt_ofBytes (bytes : Bytes) (sector : Nat) :
    (ofBytes bytes).sectorAt sector =
      if inside : sector < (Sector.listOfBytes (sectorsToHold bytes.length) bytes).length then
        (Sector.listOfBytes (sectorsToHold bytes.length) bytes)[sector]
      else Sector.zero := by
  rw [ofBytes, sectorAt_storeNonzero _ _ _ fun sector _ => sectorAt_empty _ sector,
    sectorAt_store, sectorAt_empty]
  simp only [Nat.zero_le, Nat.sub_zero, true_and]

/-- The disk of some bytes holds them, and zeros behind them. -/
theorem flat_ofBytes (bytes : Bytes) : (ofBytes bytes).flat = Bytes.byte bytes := by
  funext offset
  have split := Nat.div_add_mod offset sectorSize
  have within : offset % sectorSize < sectorSize := Nat.mod_lt _ (by decide)
  rw [flat, sectorAt_ofBytes]
  by_cases inside : offset / sectorSize <
      (Sector.listOfBytes (sectorsToHold bytes.length) bytes).length
  · rw [dif_pos inside, Sector.byte_getElem _ _ _ _ inside within, Nat.mul_comm, split]
  · rw [dif_neg inside, Sector.byte_zero]
    rw [Sector.length_listOfBytes, sectorsToHold] at inside
    have behind : bytes.length ≤ offset := by
      simp only [sectorSize] at inside
      omega
    rw [Bytes.byte, List.getD_eq_getElem?_getD, List.getElem?_eq_none behind, Option.getD_none]

end MemoryDisk

end FirmwareDisk
