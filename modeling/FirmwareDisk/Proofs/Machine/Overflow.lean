import FirmwareDisk.Proofs.Machine.Transfers

set_option autoImplicit false

namespace FirmwareDisk

namespace Drive

/-- A transfer overruns only on a drive that claims more sectors than can be counted. -/
theorem Overruns.geometry {drive : Drive} {address : Chs} {count length : Nat}
    (overruns : drive.Overruns address count length) :
    UInt64.size ≤ drive.legacy.cylinders * drive.legacy.heads * drive.legacy.sectors := by
  obtain ⟨counted, -, last, head, cylinder, -⟩ := overruns.serves
  have place : address.sector.toNat ≤ drive.legacy.sectors := by omega
  have track : address.cylinder.toNat * drive.legacy.heads + address.head.toNat + 1 ≤
      drive.legacy.cylinders * drive.legacy.heads :=
    calc address.cylinder.toNat * drive.legacy.heads + address.head.toNat + 1
      _ ≤ (address.cylinder.toNat + 1) * drive.legacy.heads := by rw [Nat.succ_mul]; omega
      _ ≤ drive.legacy.cylinders * drive.legacy.heads := Nat.mul_le_mul_right _ cylinder
  calc UInt64.size
    _ ≤ (address.cylinder.toNat * drive.legacy.heads + address.head.toNat) *
          drive.legacy.sectors + address.sector.toNat := overruns.beyond
    _ ≤ (address.cylinder.toNat * drive.legacy.heads + address.head.toNat + 1) *
          drive.legacy.sectors := by rw [Nat.succ_mul]; omega
    _ ≤ drive.legacy.cylinders * drive.legacy.heads * drive.legacy.sectors :=
      Nat.mul_le_mul_right _ track

end Drive

namespace Machine

variable {direction : Direction} {number : DriveNumber} {address : Chs} {count : UInt8}
  {lent : Lent Machine}

theorem chsTransfer_outcome {drive : Drive} (answers : lent.state.answering? number = some drive) :
    (Firmware.chsTransfer direction number address count lent).1 =
      (Drive.chsTransfer direction address count { buffer := lent.buffer, state := drive }).1 :=
  congrArg Prod.fst (logged_answered answers)

theorem chsTransfer_silent (silent : lent.state.answering? number = none) :
    (Firmware.chsTransfer direction number address count lent).1 = .error .timeout :=
  congrArg Prod.fst (logged_silent silent)

/-- A transfer overruns and is not answered, or is answered and does not overrun. -/
theorem chsTransfer_answers_or_overruns (direction : Direction) (number : DriveNumber)
    (address : Chs) (count : UInt8) (lent : Lent Machine) :
    let outcome := (Firmware.chsTransfer direction number address count lent).1
    let overrun := ∃ drive, lent.state.answering? number = some drive ∧
      drive.Overruns address count.toNat lent.buffer.length
    ((∃ value, outcome = .ok value) ∨ ∃ status, outcome = .error status) ∧ ¬ overrun ∨
      outcome = .fault .overflow ∧ overrun := by
  intro outcome overrun
  cases answers : lent.state.answering? number with
  | none =>
    refine Or.inl ⟨Or.inr ⟨_, chsTransfer_silent answers⟩, ?_⟩
    rintro ⟨drive, found, -⟩
    rw [answers] at found
    cases found
  | some drive =>
    have same : outcome = _ := chsTransfer_outcome answers
    have own : overrun → drive.Overruns address count.toNat lent.buffer.length := by
      rintro ⟨other, found, overruns⟩
      cases answers.symm.trans found
      exact overruns
    obtain ⟨value, _, run, stays, -⟩ | ⟨status, _, run, stays, -⟩ | ⟨_, _, run, rfl, overruns, -⟩ :=
      (Drive.chsTransfer_decides direction address count
        { buffer := lent.buffer, state := drive }).cases
    · rw [run] at same
      exact Or.inl ⟨Or.inl ⟨value, same⟩, fun overruns => stays (own overruns)⟩
    · rw [run] at same
      exact Or.inl ⟨Or.inr ⟨status, same⟩, fun overruns => stays (own overruns)⟩
    · rw [run] at same
      exact Or.inr ⟨same, drive, answers, overruns⟩

/-- When the legacy transfer service of a machine answers. It does, with success or a status, unless
the transfer overruns; then it leaves 64 bits and there is no answer. A drive whose own geometry
counts fewer than 2 ^ 64 sectors always answers. The sum in the check of the sectors and the number
of the track stay inside 32 and 64 bits under any geometry of 32-bit numbers; it is their product
with the sectors per track that does not. -/
theorem chsTransfer_answers_iff (direction : Direction) (number : DriveNumber) (address : Chs)
    (count : UInt8) (lent : Lent Machine) :
    let outcome := (Firmware.chsTransfer direction number address count lent).1
    (((∃ value, outcome = .ok value) ∨ ∃ status, outcome = .error status) ↔
      ¬ ∃ drive, lent.state.answering? number = some drive ∧
        drive.Overruns address count.toNat lent.buffer.length) ∧
    ((∃ drive, lent.state.answering? number = some drive ∧
        drive.Overruns address count.toNat lent.buffer.length) → outcome = .fault .overflow) ∧
    ((∀ drive, lent.state.answering? number = some drive →
        drive.legacy.cylinders * drive.legacy.heads * drive.legacy.sectors < UInt64.size) →
      (∃ value, outcome = .ok value) ∨ ∃ status, outcome = .error status) ∧
    address.sector.toNat + count.toNat < UInt32.size ∧
    ∀ heads < UInt32.size, address.cylinder.toNat * heads + address.head.toNat < UInt64.size := by
  intro outcome
  have decided := chsTransfer_answers_or_overruns direction number address count lent
  have sector := address.sector.toNat_lt
  have track := address.cylinder.toNat_lt
  have side := address.head.toNat_lt
  have many := count.toNat_lt
  refine ⟨?_, ?_, ?_, ?_, ?_⟩
  · obtain ⟨answered, stays⟩ | ⟨faulted, overruns⟩ := decided
    · exact ⟨fun _ => stays, fun _ => answered⟩
    · refine ⟨?_, fun stays => (stays overruns).elim⟩
      rintro (⟨_, answered⟩ | ⟨_, answered⟩)
      · cases answered.symm.trans faulted
      · cases answered.symm.trans faulted
  · intro overruns
    obtain ⟨-, stays⟩ | ⟨faulted, -⟩ := decided
    · exact (stays overruns).elim
    · exact faulted
  · intro countable
    obtain ⟨answered, -⟩ | ⟨-, drive, answers, overruns⟩ := decided
    · exact answered
    · exact (Nat.not_le.mpr (countable drive answers) overruns.geometry).elim
  · have limit : UInt32.size = 0x100000000 := rfl
    omega
  -- The track number is below 2 ^ 48 plus a byte.
  · intro heads few
    have most : address.cylinder.toNat * heads ≤ 0x10000 * 0x100000000 :=
      Nat.mul_le_mul (Nat.le_of_lt track) (Nat.le_of_lt few)
    have limit : UInt64.size = 0x10000000000000000 := rfl
    omega

def countlessDrive : Drive :=
  { Drive.fixed { store := .memory { totalSectors := 64 } } with
    legacy := { cylinders := 3, heads := 0xffffffff, sectors := 0xffffffff } }

/-- The first sector of its last cylinder has no 64-bit number, and asking for it gets no answer. -/
theorem chsTransfer_unanswered :
    (Firmware.chsTransfer .read 0x80 { cylinder := 2, head := 0, sector := 1 } 1
      { buffer := List.replicate 512 0, state := Machine.attach {} 0x80 countlessDrive }).1 =
        .fault .overflow := by
  decide +kernel

end Machine

end FirmwareDisk
