import FirmwareDisk.Proofs.Geometry.Soundness

set_option autoImplicit false

namespace FirmwareDisk

/-- A complaint that a buffer does not have some region. -/
def DiskError.MissesRegion : DiskError → Prop
  | .outOfBounds _ _ _ => True
  | .offsetOverflow => True
  | _ => False

/-- A call of a service can end in a fault, which is the firmware's own. -/
inductive Firmware.Faults (σ : Type) [Firmware σ] (reason : Fault) : Prop where
  | chsTransfer {direction : Direction} {drive : DriveNumber} {address : Chs} {count : UInt8}
      {lent : Lent σ}
      (call : (Firmware.chsTransfer direction drive address count lent).1 = .fault reason)
  | blockTransfer {direction : Direction} {drive : DriveNumber} {packet : Bytes} {lent : Lent σ}
      (call : (Firmware.blockTransfer direction drive packet lent).1 = .fault reason)
  | extendedParameters {drive : DriveNumber} {lent : Lent σ}
      (call : (Firmware.extendedParameters drive lent).1 = .fault reason)
  | legacyParameters {drive : DriveNumber} {firmware : σ}
      (call : (Firmware.legacyParameters drive firmware).1 = .fault reason)

/-- A fault is not an access outside a buffer, unless the firmware is to blame for it. -/
def Firmware.Excuses (σ : Type) [Firmware σ] (reason : Fault) : Prop :=
  reason = .outsideBuffer → Firmware.Faults σ reason

theorem Firmware.excuses_overflow {σ : Type} [Firmware σ] : Firmware.Excuses σ .overflow := nofun

theorem Firmware.ends_own {σ τ ε α : Type} [Firmware σ] {service : Action τ ε α} {before : τ}
    (own : ∀ reason, (service before).1 = .fault reason → Firmware.Faults σ reason) :
    Action.Ends service before (fun _ _ => True) (fun _ _ => True)
      (fun reason _ => Firmware.Faults σ reason) := by
  refine .intro (fun _ _ _ => trivial) (fun _ _ _ => trivial) ?_
  intro reason after run
  apply own
  rw [run]

theorem Firmware.keeps_own {σ : Type} [Firmware σ] (drive : DriveNumber) :
    Firmware.Keeps drive (fun _ : σ => True) (Firmware.Faults σ) where
  read _ _ _ _ := ends_own fun _ call => .chsTransfer call
  version _ _ := trivial
  extended _ _ := ends_own fun _ call => .extendedParameters call
  legacy _ _ := ends_own fun _ call => .legacyParameters call

theorem Firmware.ends_excused {σ τ ε α : Type} [Firmware σ] {service : Action τ ε α} {before : τ}
    (own : ∀ reason, (service before).1 = .fault reason → Firmware.Faults σ reason) :
    Action.Ends service before (fun _ _ => True) (fun _ _ => True)
      (fun reason _ => Firmware.Excuses σ reason) :=
  .intro (fun _ _ _ => trivial) (fun _ _ _ => trivial)
    (fun _ _ run _ => (ends_own own).of_fault run)

theorem Firmware.keeps_excused {σ : Type} [Firmware σ] (drive : DriveNumber) :
    Firmware.Keeps drive (fun _ : σ => True) (Firmware.Excuses σ) where
  read _ _ _ _ := ends_excused fun _ call => .chsTransfer call
  version _ _ := trivial
  extended _ _ := ends_excused fun _ call => .extendedParameters call
  legacy _ _ := ends_excused fun _ call => .legacyParameters call

theorem Channel.lend_excused {σ ε α : Type} [Firmware σ] {service : Action (Lent σ) ε α}
    (length : Nat) (channel : Channel σ)
    (own : ∀ lent reason, (service lent).1 = .fault reason → Firmware.Faults σ reason) :
    Action.Ends (Channel.lend length service) channel (fun _ _ => True) (fun _ _ => True)
      (fun reason _ => Firmware.Excuses σ reason) :=
  Channel.lend_ends (Firmware.ends_excused (own _))

/-- What the settings of a session keep to. -/
theorem Settings.check_ok {settings : Settings} (valid : settings.check = .ok ()) :
    (settings.fixedDiskCount ≠ 0 ∧ settings.fixedDiskCount ≤ 0x80) ∧
      settings.opticalRetryCount ≠ 0 ∧ settings.opticalSectorShift ≤ 3 := by
  have flawless : settings.flaw? = none := by
    unfold check at valid
    split at valid
    · assumption
    · cases valid
  unfold flaw? at flawless
  split at flawless
  · cases flawless
  · split at flawless
    · cases flawless
    · split at flawless
      · cases flawless
      · omega

/-- What a service keeps to each time it is tried holds of the tries together. -/
theorem Transfer.tryTimes_of_service {σ : Type} {service : Action (Channel σ) Status Unit} {cause : DiskError}
    {returns : Prop} {faults : Fault → Prop}
    (served : ∀ channel, Action.Ends service channel (fun _ _ => returns) (fun _ _ => True)
      (fun reason _ => faults reason)) (tries : Nat) (channel : Channel σ) :
    Action.Ends (tryTimes service cause tries) channel (fun _ _ => returns)
      (fun refusal _ => refusal = .final cause) (fun reason _ => faults reason) := by
  induction tries generalizing channel with
  | zero => exact rfl
  | succ tries ih =>
    exact Action.ends_caught_bind
      ((served channel).mono (fun _ _ returned => returned) (fun _ after _ => ih after))

variable {σ : Type} [Firmware σ]

namespace Transfer

/-- A plain attempt that the staging buffer has room for. -/
theorem attemptSectors_inBounds (record : Geometry) (direction : Direction) (sector : Nat)
    {length : Nat} (channel : Channel σ) (room : length ≤ Staging.sectors) :
    Action.Ends (attemptSectors record direction sector length) channel (fun _ _ => True)
      (fun refusal _ => ∀ cause, refusal = .final cause → ¬ cause.MissesRegion)
      (fun reason _ => Firmware.Excuses σ reason) := by
  have reserved := Staging.checkRegion_of_le room
  have again (status : Status) (cause : DiskError) (same : Refusal.retryable status = .final cause) :
      ¬ cause.MissesRegion := by
    cases same
  apply reserve_bind_ends
  · intro cause refused
    rw [reserved] at refused
    cases refused
  · intro _
    cases record.mode with
    | lba =>
      rw [packet, Action.ends_look_bind]
      apply Action.Ends.mapError
      exact (Channel.lend_excused _ channel fun _ _ call => .blockTransfer call).mono
        (fun _ _ _ => trivial) (fun status _ _ => again status)
    | chs =>
      cases found : record.address sector with
      -- A sector without an address is reported as such, not as a missing region.
      | error cause =>
        intro other same
        simp only [Refusal.final.injEq] at same
        have absent := Geometry.address_error found
        rw [← same, absent]
        exact id
      | ok address =>
        apply Action.Ends.mapError
        exact (Channel.lend_excused _ channel fun _ _ call => .chsTransfer call).mono
          (fun _ _ _ => trivial) (fun status _ _ => again status)

theorem blocks_room {length ratio : Nat} (positive : 0 < ratio) (few : ratio ≤ 8)
    (short : length ≤ 32) : (length + (ratio - 1)) / ratio * ratio ≤ Staging.sectors := by
  have whole := Nat.div_mul_le_self (length + (ratio - 1)) ratio
  have sectors : Staging.sectors = 128 := rfl
  omega

theorem opticalSpan_bounds {settings : Settings} (valid : settings.check = .ok ()) :
    0 < settings.opticalSpan ∧ settings.opticalSpan ≤ 8 := by
  obtain ⟨-, -, shift⟩ := settings.check_ok valid
  rw [Settings.opticalSpan, Nat.one_shiftLeft]
  exact ⟨Nat.pow_pos (by decide), Nat.pow_le_pow_right (by decide) shift⟩

/-- An attempt at an optical transfer that is not too long goes straight to its tries. -/
theorem attemptOptical_of_short {settings : Settings} (valid : settings.check = .ok ())
    (drive : DriveNumber) (sector : Nat) {length : Nat} (short : length ≤ 127) :
    (attemptOptical settings drive sector length : Action (Channel σ) Refusal Unit) = (do
      let blocks := (length + (settings.opticalSpan - 1)) / settings.opticalSpan
      let size := blocks * settings.opticalSpan * sectorSize
      let raw ← packet blocks (sector / settings.opticalSpan)
      reserve size
      tryTimes (Channel.lend size (Firmware.blockTransfer .read drive raw))
        (.readFailed drive.name) settings.opticalRetryCount) := by
  obtain ⟨-, -, shift⟩ := settings.check_ok valid
  obtain ⟨positive, few⟩ := opticalSpan_bounds valid
  have whole := Nat.div_mul_le_self (length + (settings.opticalSpan - 1)) settings.opticalSpan
  have limit : UInt64.size = 0x10000000000000000 := rfl
  have size : sectorSize = 512 := rfl
  rw [attemptOptical, if_neg (by omega)]
  dsimp only
  rw [if_neg (by rw [size]; omega)]

/-- An attempt at the optical drive never asks for a region that the staging buffer does not have,
and is never worth another one. -/
theorem attemptOptical_inBounds {settings : Settings} (valid : settings.check = .ok ())
    (drive : DriveNumber) (sector : Nat) {length : Nat} (channel : Channel σ)
    (short : length ≤ 32) :
    Action.Ends (attemptOptical settings drive sector length) channel (fun _ _ => True)
      (fun refusal _ => ∃ cause, refusal = .final cause ∧ ¬ cause.MissesRegion)
      (fun reason _ => Firmware.Excuses σ reason) := by
  obtain ⟨positive, few⟩ := opticalSpan_bounds valid
  have reserved := Staging.checkRegion_of_le (blocks_room positive few short)
  rw [attemptOptical_of_short valid drive sector (by omega)]
  dsimp only
  rw [packet, Action.ends_look_bind]
  apply reserve_bind_ends
  · intro cause refused
    rw [reserved] at refused
    cases refused
  · intro _
    refine (tryTimes_of_service (fun channel => ?_) _ channel).mono (fun _ _ done => done) ?_
    · exact Channel.lend_excused _ channel fun _ _ call => .blockTransfer call
    · rintro _ _ rfl
      exact ⟨_, rfl, id⟩

variable {opticalDrive : Option DriveNumber}

theorem exhausted_misses (direction : Direction) (drive : DriveNumber) :
    ¬ (exhausted direction drive).MissesRegion := by
  cases direction <;> exact id

/-- Coming down the ladder of a drive that is not the optical one. -/
theorem descend_sound (settings : Settings) (direction : Direction) (sector : Nat) (rung : Rung)
    (below : List Rung) (link : Link σ) (plain : link.record.optical = false)
    (sound : link.record.Sound opticalDrive)
    (holds : ∀ lower ∈ rung :: below, link.record.Holds lower) :
    Action.Ends (descend settings direction sector rung below) link
      (fun moved after => moved ≤ 127 ∧ after.record.Sound opticalDrive)
      (fun cause after => ¬ cause.MissesRegion ∧ after.record.Sound opticalDrive)
      (fun reason _ => Firmware.Excuses σ reason) := by
  let ready (rung : Rung) (below : List Rung) (link : Link σ) : Prop :=
    link.record.optical = false ∧ link.record.Sound opticalDrive ∧
      ∀ lower ∈ rung :: below, link.record.Holds lower
  refine descend_of_ready ready ?_ ⟨plain, sound, holds⟩
  intro rung below link before
  obtain ⟨plain, sound, holds⟩ := before
  have first := holds rung List.mem_cons_self
  rw [attempt_of_plain settings plain]
  refine (attemptSectors_inBounds link.record direction sector link.channel
    (Nat.le_succ_of_le first.length)).mono ?_ ?_
  · intro _ channel _
    exact ⟨first.length, sound.settle plain first⟩
  · intro refusal channel allowed
    cases refusal with
    | final cause => exact ⟨allowed cause rfl, sound⟩
    | retryable status =>
      cases below with
      | nil => exact ⟨exhausted_misses direction _, sound⟩
      | cons next rest =>
        have second := holds next (List.mem_cons_of_mem rung List.mem_cons_self)
        refine ⟨plain, sound.settle plain second, ?_⟩
        intro lower member
        exact (holds lower (List.mem_cons_of_mem rung member)).settle next

/-- The optical drive has one rung, and a refusal there is final. -/
theorem descend_optical {settings : Settings} (valid : settings.check = .ok ())
    (direction : Direction) (sector count : Nat) (link : Link σ)
    (isOptical : link.record.optical = true) (sound : link.record.Sound opticalDrive)
    (below : List Rung) :
    Action.Ends (descend settings direction sector (Rung.top link.record sector count) below) link
      (fun moved after => moved ≤ 127 ∧ after.record.Sound opticalDrive)
      (fun cause after => ¬ cause.MissesRegion ∧ after.record.Sound opticalDrive)
      (fun reason _ => Firmware.Excuses σ reason) := by
  have short : (Rung.top link.record sector count).length ≤ 32 := by
    have cap := sound.opticalCap isOptical
    simp only [Rung.top]
    omega
  apply descend_round
  rw [attempt, isOptical, if_pos rfl]
  refine (attemptOptical_inBounds valid link.record.drive sector link.channel short).mono ?_ ?_
  · intro _ channel _
    rw [sound.settle_optical isOptical sector count]
    exact ⟨Nat.le_trans short (by decide), sound⟩
  · intro refusal channel refused
    obtain ⟨cause, final, allowed⟩ := refused
    subst final
    exact ⟨allowed, sound⟩

end Transfer

/-- A transfer with a sound record leaves it sound, and stays inside the staging buffer. -/
theorem transfer_sound {settings : Settings} {opticalDrive : Option DriveNumber}
    (valid : settings.check = .ok ()) (direction : Direction) (sector count : Nat) (link : Link σ)
    (sound : link.record.Sound opticalDrive) :
    Action.Ends (transfer settings direction sector count) link
      (fun moved after => moved ≤ 127 ∧ after.record.Sound opticalDrive)
      (fun cause after => ¬ cause.MissesRegion ∧ after.record.Sound opticalDrive)
      (fun reason _ => Firmware.Excuses σ reason) := by
  rw [transfer, Action.ends_look_bind]
  split
  · exact ⟨Nat.zero_le 127, sound⟩
  · split
    · exact ⟨id, sound⟩
    · dsimp only
      cases isOptical : link.record.optical with
      | true =>
        exact Transfer.descend_optical valid direction sector count link isOptical sound _
      | false =>
        have top := sound.top_holds sector count
        apply Transfer.descend_sound settings direction sector _ _ link isOptical sound
        intro lower member
        rcases List.mem_cons.mp member with same | below
        · rw [same]
          exact top
        · exact sound.below_holds top below

end FirmwareDisk
