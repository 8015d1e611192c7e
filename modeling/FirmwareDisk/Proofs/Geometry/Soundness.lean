import FirmwareDisk.Proofs.Geometry.Probe
import FirmwareDisk.Proofs.Transfer.Rungs

set_option autoImplicit false

namespace FirmwareDisk

/-- A record whose numbers are within their bounds, in a session that started from an optical drive
or from none. -/
structure Geometry.Sound (opticalDrive : Option DriveNumber) (record : Geometry) : Prop where
  cap : 1 ≤ record.cap ∧ record.cap ≤ 127
  chsCap : 1 ≤ record.chsCap ∧ record.chsCap ≤ 127
  optical : record.optical = true ↔ opticalDrive = some record.drive
  opticalCap : record.optical = true → record.cap = 32
  opticalMode : record.optical = true → record.mode = .lba ∧ record.heads = 0
  shape : record.optical = false → Addressable record.heads record.sectors
  size : record.cylinders * record.heads * record.sectors ≤ record.totalSectors
  mode : record.drive.toNat < 0x80 → record.mode = .chs

namespace Geometry

variable {opticalDrive : Option DriveNumber} {drive : DriveNumber} {record : Geometry}

/-- Whatever a probe finds out, the record it makes is sound. -/
theorem Probed.sound (probed : Probed opticalDrive drive record)
    (fixed : ∀ drive, opticalDrive = some drive → 0x80 ≤ drive.toNat) :
    record.Sound opticalDrive := by
  cases probed with
  | optical started =>
    have high := fixed drive started
    have bounds : 1 ≤ opticalCap ∧ opticalCap ≤ 127 := by decide
    refine ⟨bounds, bounds, ?_, fun _ => rfl, fun _ => ⟨rfl, rfl⟩, nofun, ?_, ?_⟩
    · simp only [ofOptical, started]
    · simp only [ofOptical, Nat.zero_mul, Nat.zero_le]
    · intro low
      simp only [ofOptical] at low
      omega
  | plain baseline cap fbOverride other proper positive short =>
    have longest : longestTransfer = 127 := rfl
    refine ⟨?_, ⟨positive, short⟩, ?_, nofun, nofun, fun _ => proper.shape, Nat.le_max_right _ _, ?_⟩
    · simp only [ofBaseline]
      split
      · decide
      · exact ⟨positive, short⟩
    · simp only [ofBaseline, Bool.false_eq_true, false_iff]
      exact other
    · intro low
      simp only [ofBaseline] at low ⊢
      by_cases extended : baseline.extended
      · have high : 0x80 ≤ drive.toNat := of_decide_eq_true (proper.extended extended)
        omega
      · simp only [extended, Bool.false_eq_true, ↓reduceIte]

/-- A rung that a sound record can settle on, whatever rung it has come down to. -/
structure Holds (record : Geometry) (rung : Rung) : Prop where
  cap : 1 ≤ rung.cap ∧ rung.cap ≤ 127
  length : rung.length ≤ 127
  mode : rung.mode = .lba → 0x80 ≤ record.drive.toNat

theorem Holds.settle {rung : Rung} (holds : record.Holds rung) (reached : Rung) :
    (reached.settle record).Holds rung :=
  ⟨holds.cap, holds.length, holds.mode⟩

theorem Sound.top_holds (sound : record.Sound opticalDrive) (sector count : Nat) :
    record.Holds (Rung.top record sector count) where
  cap := by
    have bounds := sound.cap
    simp only [Rung.top]
    omega
  length := by
    have bounds := sound.cap
    simp only [Rung.top]
    omega
  mode linear := by
    rw [← Nat.not_lt]
    intro low
    have byAddress : record.mode = .lba := linear
    rw [sound.mode low] at byAddress
    cases byAddress

theorem Sound.below_holds {rung lower : Rung} (sound : record.Sound opticalDrive)
    (holds : record.Holds rung) (member : lower ∈ rung.below record) : record.Holds lower := by
  rcases List.mem_append.mp member with short | last
  · obtain ⟨length, listed, rfl⟩ := List.mem_map.mp short
    have bounds : ∀ length ∈ Rung.shorterLengths, 1 ≤ length ∧ length ≤ 127 := by decide
    have inside := bounds length (List.mem_filter.mp listed).1
    exact ⟨inside, inside.2, holds.mode⟩
  · split at last
    · rw [List.mem_singleton] at last
      subst last
      refine ⟨?_, (by decide : 1 ≤ 127), nofun⟩
      have bounds := sound.chsCap
      simp only [Rung.byAddress]
      omega
    · cases last

/-- A record that is not the optical one stays sound on every rung of its ladder. -/
theorem Sound.settle {rung : Rung} (sound : record.Sound opticalDrive)
    (plain : record.optical = false) (holds : record.Holds rung) :
    (rung.settle record).Sound opticalDrive where
  cap := holds.cap
  chsCap := sound.chsCap
  optical := sound.optical
  opticalCap isOptical := by
    rw [Rung.settle, plain] at isOptical
    cases isOptical
  opticalMode isOptical := by
    rw [Rung.settle, plain] at isOptical
    cases isOptical
  shape := sound.shape
  size := sound.size
  mode low := by
    cases mode : rung.mode with
    | chs => exact mode
    | lba => exact (Nat.not_lt.mpr (holds.mode mode) low).elim

/-- The optical record does not change when its first rung holds. -/
theorem Sound.settle_optical (sound : record.Sound opticalDrive) (isOptical : record.optical = true)
    (sector count : Nat) : (Rung.top record sector count).settle record = record := by
  have cap := sound.opticalCap isOptical
  apply Geometry.ext
  all_goals try rfl
  simp only [Rung.settle, Rung.top, cap]
  rfl

end Geometry

end FirmwareDisk
