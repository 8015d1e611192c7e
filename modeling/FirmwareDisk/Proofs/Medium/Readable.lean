import FirmwareDisk.Proofs.Medium.Requests

set_option autoImplicit false

namespace FirmwareDisk.Medium

/-- Sectors that a medium gives when it is asked for them. -/
structure Readable (medium : Medium) (sector count : Nat) : Prop where
  below : sector + count < UInt64.size
  fits : sector + count ≤ medium.totalSectors
  spotless : ∀ bad ∈ medium.badSectors, ¬ (sector ≤ bad ∧ bad < sector + count)
  near : ∀ file, medium.store = .image file → sector * sectorSize < UInt64.size
  calm : ∀ file, medium.store = .image file →
    file.Calm (sector * sectorSize) (count * sectorSize)

variable {medium : Medium} {sector count : Nat} {buffer : Bytes}

theorem touchesBad_eq (whole : buffer.length = count * sectorSize)
    (below : sector + count < UInt64.size) :
    medium.touchesBad sector buffer.length = true ↔
      ∃ bad ∈ medium.badSectors, sector ≤ bad ∧ bad < sector + count := by
  have last : min (sector + count) (UInt64.size - 1) = sector + count :=
    Nat.min_eq_left (by omega)
  rw [touchesBad, whole, Nat.mul_div_cancel _ (by decide), last]
  simp only [List.any_eq_true, Bool.and_eq_true, decide_eq_true_eq]

/-- A medium gives its readable sectors. -/
theorem Readable.read (readable : medium.Readable sector count)
    (whole : buffer.length = count * sectorSize) :
    BlockDevice.read sector { buffer, state := medium } =
      ((.ok (), {
        buffer := medium.flat.slice (sector * sectorSize) (count * sectorSize)
        state := medium }) : Outcome DiskError Unit × Lent Medium) := by
  have good : ¬ medium.touchesBad sector buffer.length = true := by
    rw [touchesBad_eq whole readable.below]
    rintro ⟨bad, listed, inside⟩
    exact readable.spotless bad listed inside
  have request := requestedSectors_of_fits whole readable.below readable.fits
  have ends := medium.read_ends sector buffer
  have granted : (BlockDevice.read sector { buffer, state := medium }).1 = .ok () := by
    have near := readable.near
    have calm := readable.calm
    obtain ⟨store, badSectors⟩ := medium
    simp only [BlockDevice.read, good, Bool.false_eq_true, ↓reduceIte, readStore]
    cases store with
    | memory disk =>
      have asked : requestedSectors sector buffer.length disk.totalSectors = .ok count := request
      simp only [asked]
    | image file =>
      have asked : requestedSectors sector buffer.length file.totalSectors = .ok count := request
      have offset : ¬ UInt64.size ≤ sector * sectorSize := Nat.not_le.mpr (near file rfl)
      have given := calm file rfl
      rw [← whole] at given
      change (ImageFile.readVia [] sector { buffer, state := file }).1 = .ok ()
      rw [ImageFile.readVia_eq [] sector { buffer, state := file } given]
      simp only [asked, offset, ↓reduceIte]
  obtain ⟨_, _, run, _, rfl⟩ | ⟨_, _, run, _⟩ | ⟨_, _, _, never⟩ := ends.cases
  · rw [run, whole]
  · rw [run] at granted
    cases granted
  · exact never.elim

/-- Sectors that a medium has given are readable. -/
theorem readable_of_read (whole : buffer.length = count * sectorSize)
    (granted : (BlockDevice.read sector { buffer, state := medium }).1 = .ok ()) :
    medium.Readable sector count := by
  have inside : sector + count < UInt64.size ∧ sector + count ≤ medium.totalSectors := by
    obtain ⟨_, _, _, ⟨same, length, below, fits⟩, _⟩ | ⟨_, _, run, _⟩ | ⟨_, _, _, never⟩ :=
      (medium.read_ends sector buffer).cases
    · have equal : count = same := Nat.eq_of_mul_eq_mul_right (by decide) (whole.symm.trans length)
      exact equal ▸ ⟨below, fits⟩
    · rw [run] at granted
      cases granted
    · exact never.elim
  have good : ¬ medium.touchesBad sector buffer.length = true := by
    intro bad
    simp only [BlockDevice.read, bad, ↓reduceIte, reduceCtorEq] at granted
  have given : ∀ file, medium.store = .image file → sector * sectorSize < UInt64.size ∧
      file.Calm (sector * sectorSize) (count * sectorSize) := by
    intro file stored
    obtain ⟨store, badSectors⟩ := medium
    subst stored
    have asked : requestedSectors sector buffer.length file.totalSectors = .ok count :=
      requestedSectors_of_fits whole inside.1 inside.2
    simp only [BlockDevice.read, good, Bool.false_eq_true, ↓reduceIte, readStore] at granted
    rw [← whole]
    exact ImageFile.calm_of_read asked granted
  exact {
    below := inside.1
    fits := inside.2
    spotless := fun bad listed touched =>
      good ((touchesBad_eq whole inside.1).mpr ⟨bad, listed, touched⟩)
    near := fun file stored => (given file stored).1
    calm := fun file stored => (given file stored).2 }

/-- Two readable runs of sectors side by side are one. -/
theorem Readable.append {more : Nat} (front : medium.Readable sector count)
    (back : medium.Readable (sector + count) more) : medium.Readable sector (count + more) where
  below := by
    have below := back.below
    omega
  fits := by
    have fits := back.fits
    omega
  spotless bad listed inside := by
    have before := front.spotless bad listed
    have behind := back.spotless bad listed
    omega
  near := front.near
  calm file stored := by
    have behind := back.calm file stored
    rw [Nat.add_mul] at behind ⊢
    exact (front.calm file stored).append behind

/-- A medium whose sizes are 64-bit numbers, that has no bad sectors, and whose host does not
fail. -/
structure Sound (medium : Medium) : Prop where
  spotless : medium.badSectors = []
  size : medium.totalSectors < UInt64.size
  length : ∀ file, medium.store = .image file → file.byteLength < UInt64.size
  faultless : ∀ file, medium.store = .image file → file.faults = {}

/-- A sound medium gives every sector that it has. -/
theorem Sound.readable (sound : medium.Sound) (wanted : 0 < count)
    (fits : sector + count ≤ medium.totalSectors) : medium.Readable sector count where
  below := Nat.lt_of_le_of_lt fits sound.size
  fits := fits
  spotless bad listed := by
    rw [sound.spotless] at listed
    cases listed
  near file stored := by
    have length := sound.length file stored
    have held : medium.totalSectors = sectorsToHold file.byteLength := by
      rw [totalSectors, stored]
      rfl
    rw [held, sectorsToHold] at fits
    simp only [sectorSize] at fits ⊢
    omega
  calm file stored := ImageFile.calm_of_faultless (sound.faultless file stored) _ _

end FirmwareDisk.Medium
