import FirmwareDisk.Proofs.Medium.Requests
import FirmwareDisk.Proofs.Medium.Sparse
import Mathlib.Data.Finset.Card
import Mathlib.Order.Interval.Finset.Nat

set_option autoImplicit false

namespace FirmwareDisk

/-- What is asked of a disk in memory. -/
inductive DiskRequest where
  | read (sector : Nat) (buffer : Bytes)
  | write (sector : Nat) (bytes : Bytes)
  | setReadOnly (readOnly : Bool)

abbrev DiskAnswer : Type :=
  Outcome DiskError Unit × Bytes

/-- Serves requests one after the other. -/
def serveAll {σ : Type} (serve : DiskRequest → σ → DiskAnswer × σ) :
    List DiskRequest → σ → List DiskAnswer × σ
  | [], state => ([], state)
  | request :: rest, state =>
    let (answer, after) := serve request state
    let (answers, last) := serveAll serve rest after
    (answer :: answers, last)

/-- A disk as an array of bytes. -/
structure DenseDisk where
  bytes : Bytes
  readOnly : Bool := false
  touched : Finset Nat

namespace DenseDisk

/-- The disk that begins with some bytes. -/
def ofImage (bytes : Bytes) : DenseDisk where
  bytes := bytes
  touched := (Finset.range (bytes.length / 512)).filter fun sector =>
    (Bytes.slice bytes (sector * 512) 512).any (· != 0)

/-- Why a disk of `total` sectors refuses a request for `length` bytes, if it does. -/
def refusal? (total sector length : Nat) : Option DiskError :=
  if length % 512 ≠ 0 then some (.unalignedLength length)
  else if 2 ^ 64 ≤ sector + length / 512 then some .offsetOverflow
  else if total < sector + length / 512 then some (.outOfBounds sector (length / 512) total)
  else none

/-- Serves a request. -/
def serve : DiskRequest → DenseDisk → DiskAnswer × DenseDisk
  | .read sector buffer, disk =>
    match refusal? (disk.bytes.length / 512) sector buffer.length with
    | some cause => ((.error cause, buffer), disk)
    | none => ((.ok (), Bytes.slice disk.bytes (sector * 512) buffer.length), disk)
  | .write sector bytes, disk =>
    if disk.readOnly then ((.error (.readOnly "memdisk"), bytes), disk)
    else match refusal? (disk.bytes.length / 512) sector bytes.length with
      | some cause => ((.error cause, bytes), disk)
      | none =>
        ((.ok (), bytes), { disk with
          bytes := Bytes.overlay disk.bytes (sector * 512) bytes
          touched := disk.touched ∪ Finset.Ico sector (sector + bytes.length / 512) })
  | .setReadOnly readOnly, disk => ((.ok (), []), { disk with readOnly })

end DenseDisk

/-- The checks of a request refuse it for the reason that the dense disk gives. -/
theorem requestedSectors_eq (sector length total : Nat) :
    requestedSectors sector length total =
      match DenseDisk.refusal? total sector length with
      | some cause => .error cause
      | none => .ok (length / 512) := by
  unfold DenseDisk.refusal?
  by_cases whole : length % 512 = 0
  · have counted : sectorCount length = .ok (length / 512) := if_pos whole
    rw [requestedSectors, counted, if_neg (not_not.mpr whole)]
    change (checkInside sector (length / 512) total >>= fun _ => pure (length / 512)) = _
    have size : UInt64.size = 2 ^ 64 := rfl
    rw [checkInside, size]
    by_cases far : 2 ^ 64 ≤ sector + length / 512
    · rw [if_pos far, if_pos far]
      rfl
    · rw [if_neg far, if_neg far]
      by_cases outside : total < sector + length / 512
      · rw [if_pos outside, if_pos outside]
        rfl
      · rw [if_neg outside, if_neg outside]
        rfl
  · have refused : sectorCount length = .error (.unalignedLength length) := if_neg whole
    rw [requestedSectors, refused, if_pos whole]
    rfl

theorem DenseDisk.inside_of_granted {total sector length : Nat}
    (granted : refusal? total sector length = none) :
    length = length / 512 * 512 ∧ sector + length / 512 ≤ total := by
  unfold refusal? at granted
  split at granted
  · cases granted
  · split at granted
    · cases granted
    · split at granted
      · cases granted
      · omega

/-- A sparse disk and the dense disk of the same contents. -/
structure MemoryDisk.Represents (disk : MemoryDisk) (dense : DenseDisk) : Prop where
  bytes : dense.bytes = disk.flat.slice 0 (disk.totalSectors * 512)
  readOnly : dense.readOnly = disk.readOnly
  touched : ∀ sector, sector ∈ disk.stored ↔ sector ∈ dense.touched
  inside : ∀ sector ∈ dense.touched, sector < disk.totalSectors

namespace MemoryDisk

/-- Serves a request. -/
def serve : DiskRequest → MemoryDisk → DiskAnswer × MemoryDisk
  | .read sector buffer, disk =>
    let (outcome, after) := BlockDevice.read sector { buffer, state := disk }
    ((outcome, after.buffer), after.state)
  | .write sector bytes, disk =>
    let (outcome, after) := BlockDevice.write sector bytes disk
    ((outcome, bytes), after)
  | .setReadOnly readOnly, disk => ((.ok (), []), { disk with readOnly })

namespace Represents

variable {disk : MemoryDisk} {dense : DenseDisk}

theorem length_bytes (represents : disk.Represents dense) :
    dense.bytes.length = disk.totalSectors * 512 := by
  rw [represents.bytes, Flat.length_slice]

theorem capacity (represents : disk.Represents dense) :
    dense.bytes.length / 512 = disk.totalSectors := by
  rw [represents.length_bytes, Nat.mul_div_cancel _ (by decide)]

theorem allocated (represents : disk.Represents dense) :
    disk.allocated = dense.touched.card := by
  have same : dense.touched = disk.stored.keys.toFinset := by
    ext sector
    rw [List.mem_toFinset, Std.TreeMap.mem_keys, represents.touched]
  rw [same, List.toFinset_card_of_nodup Std.TreeMap.nodup_keys, Std.TreeMap.length_keys,
    MemoryDisk.allocated]

theorem slice_bytes (represents : disk.Represents dense) {sector count : Nat}
    (fits : sector + count ≤ disk.totalSectors) :
    Bytes.slice dense.bytes (sector * 512) (count * 512) = disk.bytesAt sector count := by
  have kept : (disk.flat.slice 0 (disk.totalSectors * 512)).take (disk.totalSectors * 512) =
      disk.flat.slice 0 (disk.totalSectors * 512) :=
    List.take_of_length_le (Nat.le_of_eq (Flat.length_slice ..))
  rw [represents.bytes, Flat.slice_of_take kept (by omega), bytesAt_eq_slice, sectorSize,
    Nat.zero_add]

/-- Bytes that are stored on both disks leave them alike. -/
theorem store (represents : disk.Represents dense) {sector count : Nat} {bytes : Bytes}
    (whole : bytes.length = count * 512) (fits : sector + count ≤ disk.totalSectors) :
    (disk.store sector (Sector.listOfBytes count bytes)).Represents { dense with
      bytes := Bytes.overlay dense.bytes (sector * 512) bytes
      touched := dense.touched ∪ Finset.Ico sector (sector + count) } where
  bytes := by
    simp only [totalSectors_store, flat_store disk sector count bytes whole, represents.bytes]
    exact Flat.overlay_slice disk.flat (by omega)
  readOnly := represents.readOnly.trans (readOnly_store ..).symm
  touched other := by
    simp only [mem_store, Sector.length_listOfBytes, represents.touched, Finset.mem_union,
      Finset.mem_Ico]
    exact Or.comm
  inside other listed := by
    simp only [Finset.mem_union, Finset.mem_Ico] at listed
    rw [totalSectors_store]
    rcases listed with before | range
    · exact represents.inside other before
    · omega

/-- One request: both disks give the same answer, and go on alike. -/
theorem serve (represents : disk.Represents dense) (request : DiskRequest) :
    (MemoryDisk.serve request disk).1 = (DenseDisk.serve request dense).1 ∧
      (MemoryDisk.serve request disk).2.Represents (DenseDisk.serve request dense).2 := by
  cases request with
  | read sector buffer =>
    simp only [MemoryDisk.serve, DenseDisk.serve, BlockDevice.read, requestedSectors_eq,
      represents.capacity]
    cases granted : DenseDisk.refusal? disk.totalSectors sector buffer.length with
    | some cause => exact ⟨rfl, represents⟩
    | none =>
      obtain ⟨whole, fits⟩ := DenseDisk.inside_of_granted granted
      have filled := represents.slice_bytes fits
      rw [← whole] at filled
      rw [filled]
      exact ⟨rfl, represents⟩
  | write sector bytes =>
    simp only [MemoryDisk.serve, DenseDisk.serve, BlockDevice.write, requestedSectors_eq,
      represents.capacity, ← represents.readOnly]
    by_cases locked : dense.readOnly = true
    · simp only [if_pos locked]
      exact ⟨rfl, represents⟩
    · simp only [if_neg locked]
      cases granted : DenseDisk.refusal? disk.totalSectors sector bytes.length with
      | some cause => exact ⟨rfl, represents⟩
      | none =>
        obtain ⟨whole, fits⟩ := DenseDisk.inside_of_granted granted
        exact ⟨rfl, represents.store whole fits⟩
  | setReadOnly readOnly =>
    exact ⟨rfl, represents.bytes, rfl, represents.touched, represents.inside⟩

/-- Any requests: both disks give the same answers, and end alike. -/
theorem serveAll (represents : disk.Represents dense) (requests : List DiskRequest) :
    (FirmwareDisk.serveAll MemoryDisk.serve requests disk).1 =
        (FirmwareDisk.serveAll DenseDisk.serve requests dense).1 ∧
      (FirmwareDisk.serveAll MemoryDisk.serve requests disk).2.Represents
        (FirmwareDisk.serveAll DenseDisk.serve requests dense).2 := by
  induction requests generalizing disk dense with
  | nil => exact ⟨rfl, represents⟩
  | cons request rest ih =>
    obtain ⟨answer, after⟩ := represents.serve request
    obtain ⟨answers, last⟩ := ih after
    refine ⟨?_, last⟩
    simp only [FirmwareDisk.serveAll, answer, answers]

end Represents

/-- A writable disk that holds storage for its sectors of other bytes than zeros. -/
theorem represents_image {disk : MemoryDisk} (writable : disk.readOnly = false)
    (sparse : ∀ sector, sector ∈ disk.stored ↔
      sector < disk.totalSectors ∧ (disk.sectorAt sector).isZero = false) :
    disk.Represents (.ofImage (disk.flat.slice 0 (disk.totalSectors * 512))) := by
  have kept : (disk.flat.slice 0 (disk.totalSectors * 512)).take (disk.totalSectors * 512) =
      disk.flat.slice 0 (disk.totalSectors * 512) :=
    List.take_of_length_le (Nat.le_of_eq (Flat.length_slice ..))
  have capacity : (disk.flat.slice 0 (disk.totalSectors * 512)).length / 512 =
      disk.totalSectors := by
    rw [Flat.length_slice, Nat.mul_div_cancel _ (by decide)]
  have listed (sector : Nat) :
      sector ∈ (DenseDisk.ofImage (disk.flat.slice 0 (disk.totalSectors * 512))).touched ↔
        sector < disk.totalSectors ∧ (disk.sectorAt sector).isZero = false := by
    simp only [DenseDisk.ofImage, Finset.mem_filter, Finset.mem_range, capacity]
    apply and_congr_right
    intro inside
    have bytes : Bytes.slice (disk.flat.slice 0 (disk.totalSectors * 512)) (sector * 512) 512 =
        (disk.sectorAt sector).bytes := by
      rw [Flat.slice_of_take kept (by omega), Nat.zero_add]
      exact disk.flat_sector sector
    rw [bytes, Sector.isZero, List.all_eq_not_any_not]
    simp only [bne, Bool.not_eq_false']
  refine ⟨rfl, writable.symm, ?_, ?_⟩
  · intro sector
    rw [sparse, listed]
  · intro sector touched
    exact ((listed sector).mp touched).1

/-- An empty disk is an array of zeros. -/
theorem empty_represents (sectors : Nat) :
    ({ totalSectors := sectors } : MemoryDisk).Represents
      (.ofImage (Bytes.zeros (sectors * 512))) := by
  have flat : ({ totalSectors := sectors } : MemoryDisk).flat = Bytes.byte [] := by
    funext offset
    rw [MemoryDisk.flat, sectorAt_empty, Sector.byte_zero]
    rfl
  have represents := @represents_image { totalSectors := sectors } rfl ?_
  · rw [flat, Flat.slice_byte [] (Nat.zero_le _)] at represents
    exact represents
  · intro sector
    have inside : (({ totalSectors := sectors } : MemoryDisk).sectorAt sector).isZero = false →
        sector < sectors := by
      intro nonzero
      rw [sectorAt_empty, Sector.isZero_zero] at nonzero
      cases nonzero
    exact (empty_sparse sectors sector).trans (and_iff_right_of_imp inside).symm

/-- The disk of some bytes is the array of these bytes and zeros behind them. -/
theorem ofBytes_represents (bytes : Bytes) :
    (ofBytes bytes).Represents (.ofImage
      (bytes ++ Bytes.zeros ((bytes.length + 511) / 512 * 512 - bytes.length))) := by
  have size : (ofBytes bytes).totalSectors = (bytes.length + 511) / 512 :=
    totalSectors_storeNonzero ..
  have writable : (ofBytes bytes).readOnly = false := readOnly_storeNonzero ..
  have represents := represents_image writable ?_
  · rw [flat_ofBytes, size, Flat.slice_byte bytes (by omega)] at represents
    exact represents
  · intro sector
    have stored := mem_storeNonzero { totalSectors := sectorsToHold bytes.length } 0
      (Sector.listOfBytes (sectorsToHold bytes.length) bytes) (empty_sparse _) sector
    have inside : ((ofBytes bytes).sectorAt sector).isZero = false →
        sector < (ofBytes bytes).totalSectors := by
      intro nonzero
      rw [sectorAt_ofBytes] at nonzero
      split at nonzero
      · rename_i inside
        rw [Sector.length_listOfBytes] at inside
        rw [size]
        exact inside
      · rw [Sector.isZero_zero] at nonzero
        cases nonzero
    exact stored.trans (and_iff_right_of_imp inside).symm

end MemoryDisk

/-- How a disk in memory begins: with a number of empty sectors, or with some bytes. -/
inductive DiskStart where
  | empty (sectors : Nat)
  | holding (bytes : Bytes)

def DiskStart.disk : DiskStart → MemoryDisk
  | .empty sectors => { totalSectors := sectors }
  | .holding bytes => .ofBytes bytes

/-- The array that it stands for. Bytes are filled up with zeros to whole sectors. -/
def DiskStart.image : DiskStart → Bytes
  | .empty sectors => Bytes.zeros (sectors * 512)
  | .holding bytes => bytes ++ Bytes.zeros ((bytes.length + 511) / 512 * 512 - bytes.length)

theorem DiskStart.represents (start : DiskStart) :
    start.disk.Represents (.ofImage start.image) := by
  cases start with
  | empty sectors => exact MemoryDisk.empty_represents sectors
  | holding bytes => exact MemoryDisk.ofBytes_represents bytes

/-- A disk in memory answers any requests as a flat array of bytes does, and goes on to hold the
same bytes. It holds storage for as many sectors as were written or began with other bytes than
zeros, and for none behind its end. -/
theorem MemoryDisk.refines_dense (start : DiskStart) (requests : List DiskRequest) :
    (serveAll MemoryDisk.serve requests start.disk).1 =
        (serveAll DenseDisk.serve requests (.ofImage start.image)).1 ∧
      (serveAll MemoryDisk.serve requests start.disk).2.Represents
        (serveAll DenseDisk.serve requests (.ofImage start.image)).2 ∧
      (serveAll MemoryDisk.serve requests start.disk).2.allocated =
        (serveAll DenseDisk.serve requests (.ofImage start.image)).2.touched.card ∧
      ∀ sector ∈ (serveAll MemoryDisk.serve requests start.disk).2.stored,
        sector < (serveAll MemoryDisk.serve requests start.disk).2.totalSectors := by
  obtain ⟨answers, represents⟩ := start.represents.serveAll requests
  refine ⟨answers, represents, represents.allocated, ?_⟩
  intro sector stored
  exact represents.inside sector ((represents.touched sector).mp stored)

end FirmwareDisk
