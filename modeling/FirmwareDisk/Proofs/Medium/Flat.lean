import FirmwareDisk.Medium.Basic

set_option autoImplicit false

namespace FirmwareDisk

/-- The bytes of a device by their offset. What lies beyond the end of the device does not matter.
-/
abbrev Flat := Nat → UInt8

namespace Flat

def slice (flat : Flat) (start length : Nat) : Bytes :=
  (List.range length).map fun index => flat (start + index)

def patch (flat : Flat) (start : Nat) (bytes : Bytes) : Flat := fun offset =>
  if inside : start ≤ offset ∧ offset - start < bytes.length then bytes[offset - start]
  else flat offset

@[simp] theorem length_slice (flat : Flat) (start length : Nat) :
    (flat.slice start length).length = length := by
  simp only [slice, List.length_map, List.length_range]

theorem getElem_slice (flat : Flat) (start length index : Nat)
    (inside : index < (flat.slice start length).length) :
    (flat.slice start length)[index] = flat (start + index) := by
  simp only [slice, List.getElem_map, List.getElem_range]

theorem slice_add (flat : Flat) (start front back : Nat) :
    flat.slice start (front + back) = flat.slice start front ++ flat.slice (start + front) back := by
  simp only [slice, List.range_add, List.map_append, List.map_map]
  congr 2
  funext index
  simp only [Function.comp_apply, Nat.add_assoc]

theorem slice_of_take {flat : Flat} {bytes : Bytes} {start total : Nat}
    (taken : bytes.take total = flat.slice start total) {offset length : Nat}
    (inside : offset + length ≤ total) :
    Bytes.slice bytes offset length = flat.slice (start + offset) length := by
  have part : Bytes.slice bytes offset length = Bytes.slice (bytes.take total) offset length := by
    rw [Bytes.slice, Bytes.slice, List.drop_take, List.take_take, Nat.min_eq_left (by omega)]
  obtain ⟨rest, rfl⟩ := Nat.exists_eq_add_of_le inside
  rw [part, taken, slice_add, slice_add, Bytes.slice, List.append_assoc,
    List.drop_left' (length_slice flat start offset), List.take_left' (length_slice flat _ length)]

theorem patch_inside (flat : Flat) (start : Nat) (bytes : Bytes) (offset : Nat)
    (lower : start ≤ offset) (upper : offset - start < bytes.length) :
    flat.patch start bytes offset = bytes[offset - start] := by
  simp only [patch, lower, upper, and_self, ↓reduceDIte]

theorem patch_outside (flat : Flat) (start : Nat) (bytes : Bytes) (offset : Nat)
    (outside : offset < start ∨ start + bytes.length ≤ offset) :
    flat.patch start bytes offset = flat offset := by
  have absent : ¬ (start ≤ offset ∧ offset - start < bytes.length) := by
    omega
  simp only [patch, absent, ↓reduceDIte]

@[simp] theorem patch_nil (flat : Flat) (start : Nat) : flat.patch start [] = flat := by
  funext offset
  apply patch_outside
  simp only [List.length_nil]
  omega

/-- Two patches side by side are one. -/
theorem patch_append (flat : Flat) (start : Nat) (front back : Bytes) :
    (flat.patch start front).patch (start + front.length) back =
      flat.patch start (front ++ back) := by
  funext offset
  by_cases lower : start ≤ offset
  · by_cases inFront : offset - start < front.length
    · rw [patch_outside _ _ _ _ (Or.inl (show offset < start + front.length by omega)),
        patch_inside _ _ _ _ lower inFront,
        patch_inside _ _ _ _ lower (by simp only [List.length_append]; omega),
        List.getElem_append_left inFront]
    · by_cases inBack : offset - start < (front ++ back).length
      · have rest : offset - (start + front.length) < back.length := by
          simp only [List.length_append] at inBack
          omega
        rw [patch_inside _ _ _ _ (by omega) rest, patch_inside _ _ _ _ lower inBack,
          List.getElem_append_right (by omega)]
        simp only [Nat.sub_sub]
      · simp only [List.length_append] at inBack
        have behind : start + front.length + back.length ≤ offset := by omega
        rw [patch_outside _ _ _ _ (Or.inr behind),
          patch_outside _ _ _ _ (Or.inr (show start + front.length ≤ offset by omega)),
          patch_outside _ _ _ _ (Or.inr (by simp only [List.length_append]; omega))]
  · rw [patch_outside _ _ _ _ (Or.inl (show offset < start + front.length by omega)),
      patch_outside _ _ _ _ (Or.inl (show offset < start by omega)),
      patch_outside _ _ _ _ (Or.inl (show offset < start by omega))]

theorem slice_congr {flat other : Flat} {start length : Nat}
    (same : ∀ offset, start ≤ offset → offset < start + length → flat offset = other offset) :
    flat.slice start length = other.slice start length := by
  apply List.map_congr_left
  intro index listed
  have inside := List.mem_range.mp listed
  exact same (start + index) (by omega) (by omega)

theorem slice_patch (flat : Flat) (start : Nat) (bytes : Bytes) :
    (flat.patch start bytes).slice start bytes.length = bytes := by
  apply List.ext_getElem
  · rw [length_slice]
  · intro index sliced inside
    rw [getElem_slice, patch_inside _ _ _ _ (by omega) (by omega)]
    simp only [Nat.add_sub_cancel_left]

/-- A patch inside an array is an overlay. -/
theorem overlay_slice (flat : Flat) {total start : Nat} {bytes : Bytes}
    (inside : start + bytes.length ≤ total) :
    Bytes.overlay (flat.slice 0 total) start bytes = (flat.patch start bytes).slice 0 total := by
  obtain ⟨rest, rfl⟩ := Nat.exists_eq_add_of_le inside
  have before : (flat.patch start bytes).slice 0 start = flat.slice 0 start :=
    slice_congr fun offset _ below => patch_outside _ _ _ _ (Or.inl (by omega))
  have behind : (flat.patch start bytes).slice (start + bytes.length) rest =
      flat.slice (start + bytes.length) rest :=
    slice_congr fun offset above _ => patch_outside _ _ _ _ (Or.inr above)
  have front : (flat.slice 0 (start + bytes.length + rest)).take start = flat.slice 0 start := by
    rw [Nat.add_assoc, slice_add, List.take_left' (length_slice ..)]
  have back : (flat.slice 0 (start + bytes.length + rest)).drop (start + bytes.length) =
      flat.slice (start + bytes.length) rest := by
    rw [slice_add, List.drop_left' (length_slice ..), Nat.zero_add]
  have whole : bytes.take (start + bytes.length + rest - start) = bytes :=
    List.take_of_length_le (by omega)
  rw [Bytes.overlay, length_slice, front, back, whole, slice_add, slice_add, Nat.zero_add,
    Nat.zero_add, before, behind, slice_patch, List.append_assoc]

end Flat

namespace Bytes

@[simp] theorem length_pieces (size count : Nat) (bytes : Bytes) :
    (pieces size count bytes).length = count := by
  induction count generalizing bytes with
  | zero => rfl
  | succ count ih => rw [pieces, List.length_cons, ih]

theorem getElem_pieces (size count : Nat) (bytes : Bytes) (index : Nat)
    (inside : index < (pieces size count bytes).length) :
    (pieces size count bytes)[index] = (bytes.drop (index * size)).take size := by
  induction count generalizing bytes index with
  | zero => simp only [length_pieces, Nat.not_lt_zero] at inside
  | succ count ih =>
    cases index with
    | zero => simp only [pieces, List.getElem_cons_zero, Nat.zero_mul, List.drop_zero]
    | succ index =>
      simp only [pieces, List.getElem_cons_succ, ih, List.drop_drop]
      rw [Nat.succ_mul, Nat.add_comm]

end Bytes

namespace Sector

@[simp] theorem length_listOfBytes (count : Nat) (bytes : Bytes) :
    (listOfBytes count bytes).length = count := by
  rw [listOfBytes, List.length_map, Bytes.length_pieces]

theorem byte_listOfBytes (count : Nat) (bytes : Bytes) (index within : Nat)
    (listed : index < (listOfBytes count bytes).length) (inside : within < sectorSize)
    (present : index * sectorSize + within < bytes.length) :
    Bytes.byte (listOfBytes count bytes)[index].bytes within =
      bytes[index * sectorSize + within] := by
  have taken : within < ((bytes.drop (index * sectorSize)).take sectorSize).length := by
    simp only [List.length_take, List.length_drop]
    omega
  simp only [listOfBytes, List.getElem_map, Bytes.getElem_pieces, ofBytes, List.take_take,
    Nat.min_self, Bytes.byte, List.getD_eq_getElem?_getD, List.getElem?_append_left taken,
    List.getElem?_take_of_lt inside, List.getElem?_drop, List.getElem?_eq_getElem present,
    Option.getD_some]

end Sector

namespace MemoryDisk

def flat (disk : MemoryDisk) : Flat := fun offset =>
  Bytes.byte (disk.sectorAt (offset / sectorSize)).bytes (offset % sectorSize)

theorem flat_sector (disk : MemoryDisk) (sector : Nat) :
    disk.flat.slice (sector * sectorSize) sectorSize = (disk.sectorAt sector).bytes := by
  have length := (disk.sectorAt sector).length_bytes
  apply List.ext_getElem
  · rw [Flat.length_slice, length]
  · intro index inside present
    have bound : index < sectorSize := by
      rwa [Flat.length_slice] at inside
    have whole : (sector * sectorSize + index) / sectorSize = sector := by
      simp only [sectorSize] at bound ⊢
      omega
    have part : (sector * sectorSize + index) % sectorSize = index := by
      simp only [sectorSize] at bound ⊢
      omega
    rw [Flat.getElem_slice, flat, whole, part, Bytes.byte, List.getD_eq_getElem?_getD,
      List.getElem?_eq_getElem present, Option.getD_some]

theorem bytesAt_eq_slice (disk : MemoryDisk) (sector count : Nat) :
    disk.bytesAt sector count = disk.flat.slice (sector * sectorSize) (count * sectorSize) := by
  induction count with
  | zero => simp [bytesAt, Flat.slice]
  | succ count ih =>
    have next : sector * sectorSize + count * sectorSize = (sector + count) * sectorSize := by
      rw [Nat.add_mul]
    rw [Nat.succ_mul, Flat.slice_add, ← ih, next, flat_sector, bytesAt, bytesAt, List.range_succ,
      List.flatMap_append, List.flatMap_singleton]

theorem sectorAt_insert (disk : MemoryDisk) (sector other : Nat) (contents : Sector) :
    sectorAt { disk with stored := disk.stored.insert sector contents } other =
      if other = sector then contents else disk.sectorAt other := by
  simp only [sectorAt, Std.TreeMap.getElem?_insert, Std.LawfulEqCmp.compare_eq_iff_eq]
  by_cases same : sector = other
  · simp only [same, ↓reduceIte, Option.getD_some]
  · simp only [same, Ne.symm same, ↓reduceIte]

theorem sectorAt_store (disk : MemoryDisk) (first : Nat) (contents : List Sector) (sector : Nat) :
    (disk.store first contents).sectorAt sector =
      if inside : first ≤ sector ∧ sector - first < contents.length then contents[sector - first]
      else disk.sectorAt sector := by
  induction contents generalizing disk first with
  | nil => simp [store]
  | cons head rest ih =>
    rw [store, ih, sectorAt_insert]
    by_cases before : sector < first
    · have outside : ¬ first ≤ sector := by omega
      have apart : ¬ first + 1 ≤ sector := by omega
      have other : ¬ sector = first := by omega
      simp only [outside, apart, other, false_and, ↓reduceDIte, ↓reduceIte]
    · by_cases same : sector = first
      · subst same
        have apart : ¬ sector + 1 ≤ sector := by omega
        simp [apart]
      · have lower : first ≤ sector := by omega
        have above : first + 1 ≤ sector := by omega
        have shifted : sector - first = sector - (first + 1) + 1 := by omega
        simp [lower, above, same, shifted]

@[simp] theorem totalSectors_store (disk : MemoryDisk) (first : Nat) (contents : List Sector) :
    (disk.store first contents).totalSectors = disk.totalSectors := by
  induction contents generalizing disk first with
  | nil => rfl
  | cons head rest ih => rw [store, ih]

@[simp] theorem readOnly_store (disk : MemoryDisk) (first : Nat) (contents : List Sector) :
    (disk.store first contents).readOnly = disk.readOnly := by
  induction contents generalizing disk first with
  | nil => rfl
  | cons head rest ih => rw [store, ih]

/-- Storing the sectors of a byte string writes the string over the disk. -/
theorem flat_store (disk : MemoryDisk) (first count : Nat) (bytes : Bytes)
    (whole : bytes.length = count * sectorSize) :
    (disk.store first (Sector.listOfBytes count bytes)).flat =
      disk.flat.patch (first * sectorSize) bytes := by
  funext offset
  have split := Nat.div_add_mod offset sectorSize
  have within : offset % sectorSize < sectorSize := Nat.mod_lt _ (by decide)
  simp only [sectorSize] at whole split within
  rw [flat, sectorAt_store]
  by_cases inside : first ≤ offset / sectorSize ∧
      offset / sectorSize - first < (Sector.listOfBytes count bytes).length
  · have listed := inside.2
    rw [Sector.length_listOfBytes] at listed
    have place : (offset / sectorSize - first) * sectorSize + offset % sectorSize =
        offset - first * sectorSize := by
      simp only [sectorSize] at inside ⊢
      omega
    have present : offset - first * sectorSize < bytes.length := by
      simp only [sectorSize] at inside listed ⊢
      omega
    have lower : first * sectorSize ≤ offset := by
      simp only [sectorSize] at inside ⊢
      omega
    rw [dif_pos inside, Flat.patch_inside _ _ _ _ lower present,
      Sector.byte_listOfBytes count bytes _ _ inside.2 within (by rw [place]; exact present)]
    simp only [place]
  · rw [dif_neg inside, Flat.patch_outside]
    · rfl
    · rw [Sector.length_listOfBytes] at inside
      simp only [sectorSize] at inside ⊢
      omega

end MemoryDisk

end FirmwareDisk
