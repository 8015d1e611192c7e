import FirmwareDisk.Proofs.Geometry.Probe
import FirmwareDisk.Proofs.Machine.Transfers

set_option autoImplicit false

namespace FirmwareDisk.Machine

variable {number : DriveNumber}

/-- A written drive keeps its geometry, so addresses go on having room for it. -/
theorem Patched.shaped {start : Nat} {bytes : Bytes} {before after : Machine}
    (patched : Patched number start bytes before after) (shaped : before.Shaped number) :
    after.Shaped number := by
  intro held found
  cases attached : before.drive? number with
  | none =>
    rw [patched.absent attached] at found
    cases found
  | some drive =>
    obtain ⟨written, same, changed⟩ := patched.there drive attached
    cases same.symm.trans found
    rw [changed.legacy]
    exact shaped drive attached

theorem extendedParameters_ends (lent : Lent Machine) :
    Action.Ends (Firmware.extendedParameters number) lent
      (fun _ after => Idle number lent.state after.state)
      (fun _ after => Idle number lent.state after.state) (fun _ _ => False) := by
  cases found : lent.state.answering? number with
  | none =>
    unfold Action.Ends
    simp only [Firmware.extendedParameters, onDrive, found]
    exact .refl number lent.state
  | some drive =>
    obtain ⟨attached, -⟩ := Option.filter_eq_some_iff.mp found
    unfold Action.Ends
    simp only [Firmware.extendedParameters, onDrive, found]
    cases drive.extensions <;> exact .attach attached

theorem legacyParameters_ends (machine : Machine) :
    Action.Ends (Firmware.legacyParameters number) machine
      (fun _ after => Idle number machine after) (fun _ after => Idle number machine after)
      (fun _ _ => False) := by
  unfold Action.Ends
  simp only [Firmware.legacyParameters]
  cases machine.answering? number with
  | none => exact .refl number machine
  | some drive =>
    by_cases optical : drive.kind = .optical
    · simp only [optical, ↓reduceIte]
      exact .refl number machine
    · simp only [optical, ↓reduceIte]
      exact .refl number machine

/-- Asking for the optical drive that the machine started from leaves every drive as it is. -/
theorem opticalStatus_ends (lent : Lent Machine) :
    Action.Ends (Firmware.opticalStatus number) lent
      (fun _ after => ∀ other, after.state.drive? other = lent.state.drive? other)
      (fun _ after => ∀ other, after.state.drive? other = lent.state.drive? other)
      (fun _ _ => False) := by
  unfold Action.Ends
  simp only [Firmware.opticalStatus, onDrive]
  by_cases elsewhere : number = lent.state.bootDrive
  · simp only [elsewhere, ne_eq, not_true_eq_false, ↓reduceIte]
    rw [← elsewhere]
    cases found : lent.state.answering? number with
    | none => exact fun _ => rfl
    | some drive =>
      obtain ⟨attached, -⟩ := Option.filter_eq_some_iff.mp found
      by_cases optical : drive.kind = .optical
      · simp only [optical, ↓reduceIte]
        exact drive?_attach_self attached
      · simp only [optical, ↓reduceIte]
        exact drive?_attach_self attached
  · simp only [elsewhere, ne_eq, not_false_eq_true, ↓reduceIte, implies_true]

theorem Moved.idle {drive : Drive} {sector : Nat} {before after : Lent Machine}
    (moved : Moved number drive .read sector before after) :
    Idle number before.state after.state := fun start => moved.patched.anywhere start

/-- The services that a probe calls leave all media alone, and fault as its reads do. -/
theorem keeps_reads (machine : Machine) {faults : Fault → Prop}
    (reads : ∀ (address : Chs) lent, address.Probed → Idle number machine lent.state →
      Action.Ends (Firmware.chsTransfer .read number address 1) lent
        (fun _ after => Idle number lent.state after.state)
        (fun _ after => Idle number lent.state after.state) (fun reason _ => faults reason)) :
    Firmware.Keeps number (Idle number machine) faults where
  read address lent probed idle := (reads address lent probed idle).mono
    (fun _ _ more => idle.trans more) (fun _ _ more => idle.trans more)
  version _ idle := idle
  extended lent idle :=
    ((extendedParameters_ends lent).mono (fun _ _ more => idle.trans more)
      (fun _ _ more => idle.trans more)).unfaulted
  legacy machine idle :=
    ((legacyParameters_ends machine).mono (fun _ _ more => idle.trans more)
      (fun _ _ more => idle.trans more)).unfaulted

/-- A read leaves all media alone, unless it overruns. -/
theorem chsTransfer_read_idle (address : Chs) (count : UInt8) (lent : Lent Machine) :
    Action.Ends (Firmware.chsTransfer .read number address count) lent
      (fun _ after => Idle number lent.state after.state)
      (fun _ after => Idle number lent.state after.state)
      (fun _ _ => ∃ drive, lent.state.drive? number = some drive ∧
        drive.Overruns address count.toNat lent.buffer.length) := by
  refine (chsTransfer_decides .read address count lent).mono ?_ (fun _ _ refused => refused.idle)
  rintro _ _ ⟨_, _, -, moved⟩
  exact moved.idle

theorem keeps (machine : Machine) (shaped : machine.Shaped number) :
    Firmware.Keeps number (Idle number machine) (fun _ => False) := by
  apply keeps_reads
  intro address lent _ idle
  have read := @chsTransfer_read_idle number address 1 lent
  refine .intro (fun _ _ run => read.of_ok run) (fun _ _ run => read.of_error run) ?_
  intro _ _ run
  obtain ⟨drive, attached, overruns⟩ := read.of_fault run
  exact overruns.unaddressable ((idle 0).shaped shaped drive attached)

theorem keeps_media (machine : Machine) :
    Firmware.Keeps number (Idle number machine) (fun _ => True) := by
  apply keeps_reads
  intro address lent _ _
  have read := @chsTransfer_read_idle number address 1 lent
  exact .intro (fun _ _ run => read.of_ok run) (fun _ _ run => read.of_error run)
    (fun _ _ _ => trivial)

/-- The heads and sectors per track of a drive are 32-bit numbers. -/
def Sized (machine : Machine) (number : DriveNumber) : Prop :=
  ∀ drive, machine.drive? number = some drive →
    drive.legacy.heads < UInt32.size ∧ drive.legacy.sectors < UInt32.size

/-- The addresses that a probe reads are too low for a transfer of them to overrun. -/
theorem keeps_sized (machine : Machine) (sized : machine.Sized number) :
    Firmware.Keeps number (Idle number machine) (fun _ => False) := by
  apply keeps_reads
  intro address lent probed idle
  have read := @chsTransfer_read_idle number address 1 lent
  refine .intro (fun _ _ run => read.of_ok run) (fun _ _ run => read.of_error run) ?_
  intro _ _ run
  obtain ⟨held, found, overruns⟩ := read.of_fault run
  obtain ⟨near, first⟩ := probed
  have beyond := overruns.beyond
  rw [first] at beyond
  cases attached : machine.drive? number with
  | none =>
    rw [(idle 0).absent attached] at found
    cases found
  | some drive =>
    obtain ⟨written, same, changed⟩ := (idle 0).there drive attached
    cases same.symm.trans found
    obtain ⟨heads, sectors⟩ := sized drive attached
    rw [changed.legacy] at beyond
    have track : address.cylinder.toNat * drive.legacy.heads + address.head.toNat ≤ 0xffffffff := by
      have limit : UInt32.size = 0x100000000 := rfl
      obtain zero | one : address.cylinder.toNat = 0 ∨ address.cylinder.toNat = 1 := by omega
      · rw [zero, Nat.zero_mul]
        omega
      · rw [one, Nat.one_mul]
        omega
    have place := Nat.mul_le_mul track (Nat.le_of_lt_succ sectors)
    have limit : UInt64.size = 0x10000000000000000 := rfl
    have one : (1 : UInt8).toNat = 1 := rfl
    omega

end FirmwareDisk.Machine
