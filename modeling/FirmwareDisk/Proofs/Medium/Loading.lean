import FirmwareDisk.Medium.Image
import FirmwareDisk.Proofs.Bytes
import FirmwareDisk.Proofs.Medium.Flat

set_option autoImplicit false

namespace FirmwareDisk

namespace ImageFile

variable {file : ImageFile} {offset length : Nat}

def flat (file : ImageFile) : Flat := fun offset =>
  if offset < file.byteLength then file.byteAt offset else 0

@[simp] theorem length_bytesFrom (file : ImageFile) (offset length : Nat) :
    (file.bytesFrom offset length).length = min length (file.byteLength - offset) := by
  simp only [bytesFrom, List.length_map, List.length_range]

theorem bytesFrom_eq_slice (file : ImageFile) (offset length : Nat) :
    file.bytesFrom offset length =
      file.flat.slice offset (min length (file.byteLength - offset)) := by
  apply List.map_congr_left
  intro index listed
  have inside := List.mem_range.mp listed
  rw [flat, if_pos (by omega)]

theorem slice_behind {offset : Nat} (behind : file.byteLength ≤ offset) (length : Nat) :
    file.flat.slice offset length = Bytes.zeros length := by
  apply List.eq_replicate_iff.mpr
  constructor
  · exact Flat.length_slice _ _ _
  · intro byte listed
    obtain ⟨index, -, rfl⟩ := List.mem_map.mp listed
    rw [flat, if_neg (by omega)]

theorem failure?_eq_none_iff :
    file.failure? offset length = none ↔
      ∀ index < length, index ≤ file.byteLength - offset →
        file.faults.read (offset + index) = none := by
  simp only [failure?, List.findSome?_eq_none_iff, List.mem_range, Option.map_eq_none_iff,
    Nat.lt_min, Nat.lt_succ_iff, and_imp]

/-- Where the host fails, it has given bytes of the file up to there. -/
theorem failure?_eq_some {given : Nat} {cause : String}
    (failed : file.failure? offset length = some (given, cause)) :
    given < length ∧ given ≤ file.byteLength - offset ∧
      file.faults.read (offset + given) = some cause := by
  obtain ⟨place, listed, found⟩ := List.exists_of_findSome?_eq_some failed
  obtain ⟨told, fault, same⟩ := Option.map_eq_some_iff.mp found
  cases same
  have inside := List.mem_range.mp listed
  exact ⟨by omega, by omega, fault⟩

/-- The host does not fail while `length` bytes from `offset` on are read. -/
structure Calm (file : ImageFile) (offset length : Nat) : Prop where
  seek : file.faults.seek offset = none
  read : ∀ index < length, index ≤ file.byteLength - offset →
    file.faults.read (offset + index) = none

theorem calm_of_faultless (faultless : file.faults = {}) (offset length : Nat) :
    file.Calm offset length where
  seek := by rw [faultless]
  read _ _ _ := by rw [faultless]

theorem Calm.append {more : Nat} (front : file.Calm offset length)
    (back : file.Calm (offset + length) more) : file.Calm offset (length + more) where
  seek := front.seek
  read index inside before := by
    by_cases early : index < length
    · exact front.read index early before
    · have later := back.read (index - length) (by omega) (by omega)
      rwa [show offset + length + (index - length) = offset + index by omega] at later

theorem failure?_part (unfailing : file.failure? offset length = none) {filled room : Nat}
    (within : filled ≤ file.byteLength - offset) (part : filled + room ≤ length) :
    file.failure? (offset + filled) room = none := by
  rw [failure?_eq_none_iff] at unfailing ⊢
  intro index inside before
  rw [Nat.add_assoc]
  exact unfailing (filled + index) (by omega) (by omega)

/-- A buffer on the way to being filled from a file: the first bytes are those of the file, and the
rest is as it was. -/
structure Holding (file : ImageFile) (offset : Nat) (original : Bytes) (filled : Nat)
    (buffer : Bytes) : Prop where
  bounded : filled ≤ original.length
  within : filled ≤ file.byteLength - offset
  held : buffer = Bytes.overlay original 0 (file.flat.slice offset filled)

namespace Holding

variable {original buffer : Bytes} {filled room : Nat}

theorem nothing (file : ImageFile) (offset : Nat) (original : Bytes) :
    file.Holding offset original 0 original where
  bounded := Nat.zero_le _
  within := Nat.zero_le _
  held := (Bytes.overlay_slice original 0 0).symm

theorem length_eq (holding : file.Holding offset original filled buffer) :
    buffer.length = original.length := by
  rw [holding.held, Bytes.length_overlay]

theorem take_eq (holding : file.Holding offset original filled buffer) :
    buffer.take filled = file.flat.slice offset filled := by
  have front := @Bytes.take_overlay original (file.flat.slice offset filled) 0
    (by rw [Flat.length_slice, Nat.zero_add]; exact holding.bounded)
  rwa [Flat.length_slice, Nat.zero_add, List.take_zero, List.nil_append, ← holding.held] at front

/-- What the host gives goes behind what it gave before. -/
theorem step (holding : file.Holding offset original filled buffer)
    (fits : room ≤ buffer.length - filled) :
    file.Holding offset original (filled + (file.bytesFrom (offset + filled) room).length)
      (Bytes.overlay buffer filled (file.bytesFrom (offset + filled) room)) := by
  have bounded := holding.bounded
  have within := holding.within
  rw [holding.length_eq] at fits
  refine ⟨?_, ?_, ?_⟩
  · rw [length_bytesFrom]
    omega
  · rw [length_bytesFrom]
    omega
  · rw [length_bytesFrom, Flat.slice_add, ← bytesFrom_eq_slice, holding.held,
      Bytes.overlay_overlay]
    · rw [Flat.length_slice, Nat.zero_add]
    · rw [List.length_append, Flat.length_slice, length_bytesFrom]
      omega

end Holding

/-- What the loop leaves where the host does not fail: the buffer is full, or there was nothing
more. -/
structure Loaded (file : ImageFile) (offset : Nat) (original : Bytes) (filled : Nat)
    (buffer : Bytes) : Prop where
  holding : file.Holding offset original filled buffer
  complete : filled = original.length ∨ file.byteLength ≤ offset + filled

/-- The loop ends so whatever the host replies. -/
theorem load_loaded {original : Bytes}
    (unfailing : file.failure? offset original.length = none)
    (replies : List HostReply) {filled : Nat} {buffer : Bytes}
    (holding : file.Holding offset original filled buffer) :
    ∃ last after, file.load offset replies filled buffer = (.ok last, after) ∧
      file.Loaded offset original last after := by
  have size := holding.length_eq
  have bounded := holding.bounded
  have given {room : Nat} (fits : room ≤ original.length - filled) :
      file.failure? (offset + filled) room = none :=
    failure?_part unfailing holding.within (by omega)
  -- Every reply leaves less of the buffer to fill, and keeps the front of it a slice of the file.
  induction replies generalizing filled buffer with
  | nil =>
    rw [load, given (by omega)]
    refine ⟨_, _, rfl, holding.step (Nat.le_refl _), ?_⟩
    rw [length_bytesFrom]
    omega
  | cons reply replies ih =>
    cases reply with
    | interrupted =>
      rw [load]
      by_cases full : buffer.length ≤ filled
      · rw [if_pos full]
        exact ⟨filled, buffer, rfl, holding, .inl (by omega)⟩
      · rw [if_neg full]
        exact ih holding size bounded given
    | gives more =>
      rw [load, ask, given (by omega)]
      have fits := Nat.min_le_right (more + 1) (buffer.length - filled)
      by_cases ended : (file.bytesFrom (offset + filled)
          (min (more + 1) (buffer.length - filled))).isEmpty = true
      · -- The host gave nothing: the buffer is full, or the file has no more.
        have nothing := List.length_eq_zero_iff.mpr (List.isEmpty_iff.mp ended)
        rw [length_bytesFrom] at nothing
        simp only [ended, ↓reduceIte]
        exact ⟨filled, buffer, rfl, holding, by omega⟩
      · have next := holding.step fits
        simp only [ended, Bool.false_eq_true, ↓reduceIte]
        exact ih next next.length_eq next.bounded fun less =>
          failure?_part unfailing next.within (by have := next.bounded; omega)

theorem Loaded.padded {original buffer : Bytes} {filled : Nat}
    (loaded : file.Loaded offset original filled buffer) :
    buffer.take filled ++ Bytes.zeros (original.length - filled) =
      file.flat.slice offset original.length := by
  obtain ⟨rest, whole⟩ := Nat.exists_eq_add_of_le loaded.holding.bounded
  rw [loaded.holding.take_eq, whole, Nat.add_sub_cancel_left, Flat.slice_add]
  congr 1
  obtain full | ended := loaded.complete
  · have nothing : rest = 0 := by omega
    rw [nothing]
    rfl
  · exact (slice_behind ended rest).symm

/-- Where the host does not fail, no reply makes a difference to a read. -/
theorem readVia_eq (replies : List HostReply) (sector : Nat) (lent : Lent ImageFile)
    (calm : lent.state.Calm (sector * sectorSize) lent.buffer.length) :
    readVia replies sector lent =
      match requestedSectors sector lent.buffer.length lent.state.totalSectors with
      | .error cause => (.error cause, lent)
      | .ok _ =>
        if UInt64.size ≤ sector * sectorSize then (.error .offsetOverflow, lent)
        else (.ok (), { lent with
          buffer := lent.state.flat.slice (sector * sectorSize) lent.buffer.length }) := by
  obtain ⟨filled, buffer, run, loaded⟩ := load_loaded (failure?_eq_none_iff.mpr calm.read) replies
    (.nothing lent.state (sector * sectorSize) lent.buffer)
  cases asked : requestedSectors sector lent.buffer.length lent.state.totalSectors with
  | error cause => simp only [readVia, asked]
  | ok count => simp only [readVia, asked, run, loaded.padded, calm.seek]

/-- A read by the flat view of the file: where the host fails, the bytes in front of that place have
been given. -/
theorem read_eq (sector : Nat) (lent : Lent ImageFile) :
    BlockDevice.read sector lent =
      match requestedSectors sector lent.buffer.length lent.state.totalSectors with
      | .error cause => (.error cause, lent)
      | .ok _ =>
        if UInt64.size ≤ sector * sectorSize then (.error .offsetOverflow, lent)
        else match lent.state.faults.seek (sector * sectorSize) with
          | some cause => (.error (lent.state.hostError cause), lent)
          | none =>
            match lent.state.failure? (sector * sectorSize) lent.buffer.length with
            | none => (.ok (), { lent with
                buffer := lent.state.flat.slice (sector * sectorSize) lent.buffer.length })
            | some (given, cause) => (.error (lent.state.hostError cause), { lent with
                buffer := Bytes.overlay lent.buffer 0
                  (lent.state.flat.slice (sector * sectorSize) given) }) := by
  change readVia [] sector lent = _
  cases asked : requestedSectors sector lent.buffer.length lent.state.totalSectors with
  | error cause => simp only [readVia, asked]
  | ok count =>
    cases lost : lent.state.faults.seek (sector * sectorSize) with
    | some cause => simp only [readVia, asked, lost]
    | none =>
      cases failed : lent.state.failure? (sector * sectorSize) lent.buffer.length with
      | none =>
        obtain ⟨filled, buffer, run, loaded⟩ :=
          load_loaded failed [] (.nothing lent.state (sector * sectorSize) lent.buffer)
        simp only [readVia, asked, lost, run, loaded.padded]
      | some failure =>
        obtain ⟨given, cause⟩ := failure
        obtain ⟨-, within, -⟩ := failure?_eq_some failed
        have loaded : lent.state.load (sector * sectorSize) [] 0 lent.buffer =
            (.error cause, Bytes.overlay lent.buffer 0
              (lent.state.flat.slice (sector * sectorSize) given)) := by
          simp only [load, Nat.add_zero, Nat.sub_zero, failed, bytesFrom_eq_slice,
            Nat.min_eq_left within]
        simp only [readVia, asked, lost, loaded]

end ImageFile

end FirmwareDisk
