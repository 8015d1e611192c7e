import FirmwareDisk.Proofs.Medium.Requests

set_option autoImplicit false

namespace FirmwareDisk.BlockDevice

variable {δ : Type} [BlockDevice δ]

/-- A device, in any of the states that it is kept in, whose reads of whole sectors return its bytes
or are refused. -/
structure Holds (kept : δ → Prop) (size : Nat) (contents : Flat) : Prop where
  size_eq : ∀ device, kept device → totalSectors device = size
  read_ends : ∀ sector count device, kept device →
    Action.Ends (read sector) { buffer := Bytes.zeros (count * sectorSize), state := device }
      (fun _ after => kept after.state ∧
        after.buffer = contents.slice (sector * sectorSize) (count * sectorSize))
      (fun _ after => kept after.state) (fun _ _ => False)

theorem le_sectorsToHold (length : Nat) : length ≤ sectorsToHold length * sectorSize := by
  simp only [sectorsToHold, sectorSize]
  omega

theorem sectorsToHold_of_aligned {length : Nat} (aligned : length % sectorSize = 0) :
    sectorsToHold length * sectorSize = length := by
  simp only [sectorsToHold, sectorSize] at aligned ⊢
  omega

def cut (offset length : Nat) (around : Bytes) : Bytes :=
  if offset % sectorSize = 0 ∧ length % sectorSize = 0 then around
  else Bytes.slice around (offset % sectorSize) length

/-- A run of bytes of some whole sectors lies where those lie. -/
theorem cut_slice (contents : Flat) (sector offset length : Nat) :
    cut offset length (contents.slice ((sector + offset / sectorSize) * sectorSize)
      (sectorsToHold (offset % sectorSize + length) * sectorSize)) =
        contents.slice (sector * sectorSize + offset) length := by
  have start : (sector + offset / sectorSize) * sectorSize + offset % sectorSize =
      sector * sectorSize + offset := by
    simp only [sectorSize]
    omega
  unfold cut
  split
  · rename_i aligned
    rw [← start, aligned.1, Nat.zero_add, Nat.add_zero, sectorsToHold_of_aligned aligned.2]
  · rw [← start]
    refine Flat.slice_of_take ?_ (le_sectorsToHold (offset % sectorSize + length))
    rw [List.take_of_length_le (Nat.le_of_eq (Flat.length_slice ..))]

/-- Some bytes are read by one read of the whole sectors around them, unless the sector where they
begin is no 64-bit number. -/
theorem fetch_eq {length : Nat} (nonempty : 0 < length) (sector offset : Nat) (device : δ) :
    fetch sector offset length device =
      if UInt64.size ≤ sector + offset / sectorSize then (.error .offsetOverflow, device)
      else match read (sector + offset / sectorSize)
          { buffer := Bytes.zeros (sectorsToHold (offset % sectorSize + length) * sectorSize)
            state := device } with
        | (.ok (), after) => (.ok (cut offset length after.buffer), after.state)
        | (.error cause, after) => (.error cause, after.state)
        | (.fault reason, after) => (.fault reason, after.state) := by
  have present : length ≠ 0 := by omega
  have zeros (count : Nat) : (Bytes.zeros count).length = count := List.length_replicate
  unfold fetch readBytes
  simp only [zeros, present, ↓reduceIte]
  by_cases far : UInt64.size ≤ sector + offset / sectorSize
  · simp only [far, ↓reduceIte]
  simp only [far, ↓reduceIte]
  by_cases aligned : offset % sectorSize = 0 ∧ length % sectorSize = 0
  · have whole : sectorsToHold (offset % sectorSize + length) * sectorSize = length := by
      rw [aligned.1, Nat.zero_add, sectorsToHold_of_aligned aligned.2]
    rw [if_pos aligned, whole]
    rcases read (sector + offset / sectorSize) _ with ⟨_ | _ | _, _⟩ <;>
      simp only [cut, aligned, and_self, ↓reduceIte]
  · simp only [aligned, ↓reduceIte, cut]
    rcases read (sector + offset / sectorSize) _ with ⟨_ | _ | _, _⟩ <;> rfl

/-- What the read of the whole sectors around some bytes promises, the fetch of the bytes promises.
Without a read it is refused where the sector in which they begin is no 64-bit number. -/
theorem fetch_of_read {length : Nat} (nonempty : 0 < length) {sector offset : Nat} {device : δ}
    {returns : Bytes → δ → Prop} {refuses : DiskError → δ → Prop} {faults : Fault → δ → Prop}
    (beyond : UInt64.size ≤ sector + offset / sectorSize → refuses .offsetOverflow device)
    (served : sector + offset / sectorSize < UInt64.size →
      Action.Ends (read (sector + offset / sectorSize))
        { buffer := Bytes.zeros (sectorsToHold (offset % sectorSize + length) * sectorSize)
          state := device }
        (fun _ after => returns (cut offset length after.buffer) after.state)
        (fun cause after => refuses cause after.state)
        (fun reason after => faults reason after.state)) :
    Action.Ends (fetch sector offset length) device returns refuses faults := by
  unfold Action.Ends
  rw [fetch_eq nonempty]
  by_cases far : UInt64.size ≤ sector + offset / sectorSize
  · simp only [far, ↓reduceIte]
    exact beyond far
  simp only [far, ↓reduceIte]
  obtain ⟨_, after, run, done⟩ | ⟨_, after, run, refused⟩ | ⟨_, after, run, faulted⟩ :=
    (served (Nat.lt_of_not_le far)).cases
  · simp only [run]
    exact done
  · simp only [run]
    exact refused
  · simp only [run]
    exact faulted

/-- A device that holds some bytes returns them at any granularity, or is refused. -/
theorem Holds.fetch_ends {kept : δ → Prop} {size : Nat} {contents : Flat}
    (holds : Holds kept size contents) {device : δ} (start : kept device) (sector offset : Nat)
    {length : Nat} (nonempty : 0 < length) :
    Action.Ends (fetch sector offset length) device
      (fun bytes after => kept after ∧
        bytes = contents.slice (sector * sectorSize + offset) length)
      (fun _ after => kept after) (fun _ _ => False) := by
  refine fetch_of_read nonempty (fun _ => start) fun _ => ?_
  refine (holds.read_ends _ _ device start).mono ?_ (fun _ _ refused => refused)
  rintro _ after ⟨held, bytes⟩
  exact ⟨held, by rw [bytes, cut_slice]⟩

/-- A device, in any of the states that it is kept in, that is read like an original. Where a read
of the device succeeds, so does the same read of the original, and both return the same bytes. Where
it is refused, the device is one that may fail. -/
structure Mirrors {γ : Type} [BlockDevice γ] (kept : δ → Prop) (failing : Prop) (original : γ) :
    Prop where
  size_eq : ∀ device, kept device → totalSectors device = totalSectors original
  read_ends : ∀ sector count device, kept device → sector < UInt64.size → 0 < count →
    sector + count ≤ totalSectors original →
    Action.Ends (read sector) { buffer := Bytes.zeros (count * sectorSize), state := device }
      (fun _ after => kept after.state ∧
        read sector { buffer := Bytes.zeros (count * sectorSize), state := original } =
          (.ok (), { buffer := after.buffer, state := original }))
      (fun _ _ => failing) (fun _ _ => False)

/-- Some bytes inside a device that mirrors an original are those of the original. -/
theorem Mirrors.fetch_ends {γ : Type} [BlockDevice γ] {kept : δ → Prop} {failing : Prop}
    {original : γ} (mirrors : Mirrors kept failing original) {device : δ} (start : kept device)
    {sector offset length : Nat} (nonempty : 0 < length)
    (inside : sector + offset / sectorSize + sectorsToHold (offset % sectorSize + length) ≤
      totalSectors original) :
    Action.Ends (fetch sector offset length) device
      (fun bytes after => kept after ∧ fetch sector offset length original = (.ok bytes, original))
      (fun cause _ => failing ∨ fetch sector offset length original = (.error cause, original))
      (fun _ _ => False) := by
  have wanted : 0 < sectorsToHold (offset % sectorSize + length) := by
    simp only [sectorsToHold, sectorSize]
    omega
  rw [fetch_eq nonempty sector offset original]
  refine fetch_of_read nonempty (fun far => .inr (if_pos far)) fun near => ?_
  refine (mirrors.read_ends _ _ device start near wanted inside).mono ?_
    (fun _ _ refused => .inl refused)
  rintro _ after ⟨held, same⟩
  exact ⟨held, by rw [if_neg (Nat.not_le.mpr near), same]⟩

end FirmwareDisk.BlockDevice

namespace FirmwareDisk.Medium

theorem holds (medium : Medium) :
    BlockDevice.Holds (· = medium) medium.totalSectors medium.flat where
  size_eq := by
    rintro _ rfl
    rfl
  read_ends := by
    rintro sector count _ rfl
    refine (read_ends _ sector _).mono ?_ ?_
    · rintro _ _ ⟨_, rfl⟩
      exact ⟨rfl, by rw [Bytes.zeros, List.length_replicate]⟩
    · rintro _ _ ⟨same, -⟩
      exact same

end FirmwareDisk.Medium
