import FirmwareDisk.Proofs.Transfer.Soundness

set_option autoImplicit false

namespace FirmwareDisk

/-- Services that never fault, as long as something is true of the firmware that they all keep
true. -/
structure Firmware.Dependable {σ : Type} [Firmware σ] (kept : σ → Prop) : Prop where
  chsTransfer : ∀ direction drive address count lent, kept lent.state →
    Action.Ends (Firmware.chsTransfer direction drive address count) lent
      (fun _ after => kept after.state) (fun _ after => kept after.state) (fun _ _ => False)
  blockTransfer : ∀ direction drive (packet : DiskAddressPacket) lent, kept lent.state →
    Action.Ends (Firmware.blockTransfer direction drive packet.encode) lent
      (fun _ after => kept after.state) (fun _ after => kept after.state) (fun _ _ => False)
  extensionsVersion : ∀ drive firmware, kept firmware →
    kept (Firmware.extensionsVersion drive firmware).2
  extendedParameters : ∀ drive lent, kept lent.state →
    Action.Ends (Firmware.extendedParameters drive) lent
      (fun _ after => kept after.state) (fun _ after => kept after.state) (fun _ _ => False)
  legacyParameters : ∀ drive firmware, kept firmware →
    Action.Ends (Firmware.legacyParameters drive) firmware
      (fun _ after => kept after) (fun _ after => kept after) (fun _ _ => False)
  floppyCount : ∀ firmware, kept firmware → kept (Firmware.floppyCount firmware).2
  reset : ∀ drive firmware, kept firmware → kept (Firmware.reset drive firmware)

theorem Transfer.tryTimes_keeps {σ : Type} {kept : σ → Prop}
    {service : Action (Channel σ) Status Unit} (cause : DiskError)
    (served : ∀ channel : Channel σ, kept channel.firmware → Action.Ends service channel
      (fun _ after => kept after.firmware) (fun _ after => kept after.firmware) (fun _ _ => False))
    (tries : Nat) {channel : Channel σ} (held : kept channel.firmware) :
    Action.Ends (tryTimes service cause tries) channel (fun _ after => kept after.firmware)
      (fun refusal after => (∃ cause, refusal = .final cause) ∧ kept after.firmware)
      (fun _ _ => False) := by
  induction tries generalizing channel with
  | zero => exact ⟨⟨cause, rfl⟩, held⟩
  | succ tries ih =>
    exact Action.ends_caught_bind
      ((served channel held).mono (fun _ _ still => still) (fun _ _ still => ih still))

namespace Firmware.Dependable

variable {σ : Type} [Firmware σ] {kept : σ → Prop} (dependable : Firmware.Dependable kept)

include dependable

theorem keeps (drive : DriveNumber) : Firmware.Keeps drive kept (fun _ => False) where
  read address lent _ held := dependable.chsTransfer .read drive address 1 lent held
  version firmware held := dependable.extensionsVersion drive firmware held
  extended lent held := dependable.extendedParameters drive lent held
  legacy firmware held := dependable.legacyParameters drive firmware held

theorem attemptSectors_ends (record : Geometry) (direction : Direction) (sector length : Nat)
    {channel : Channel σ} (held : kept channel.firmware) :
    Action.Ends (Transfer.attemptSectors record direction sector length) channel
      (fun _ after => kept after.firmware) (fun _ after => kept after.firmware)
      (fun _ _ => False) :=
  Transfer.attemptSectors_of_service (fun _ _ => held) (fun _ _ _ => held)
    (fun _ _ => dependable.blockTransfer direction record.drive _ _ held)
    (fun _ _ address _ => dependable.chsTransfer direction record.drive address _ _ held)

/-- A short attempt at the optical drive, each refusal of which is final. -/
theorem attemptOptical_ends {settings : Settings} (valid : settings.check = .ok ())
    (drive : DriveNumber) (sector : Nat) {length : Nat} (short : length ≤ 127)
    {channel : Channel σ} (held : kept channel.firmware) :
    Action.Ends (Transfer.attemptOptical settings drive sector length) channel
      (fun _ after => kept after.firmware)
      (fun refusal after => (∃ cause, refusal = .final cause) ∧ kept after.firmware)
      (fun _ _ => False) := by
  rw [Transfer.attemptOptical_of_short valid drive sector short]
  dsimp only
  rw [Transfer.packet, Action.ends_look_bind]
  apply Transfer.reserve_bind_ends
  · exact fun cause _ => ⟨⟨cause, rfl⟩, held⟩
  · intro _
    exact Transfer.tryTimes_keeps _
      (fun channel held => Channel.lend_ends (dependable.blockTransfer .read drive _ _ held)) _ held

/-- Coming down the ladder. The optical drive has a single rung, which is short. -/
theorem descend_ends {settings : Settings} (valid : settings.check = .ok ())
    (direction : Direction) (sector : Nat) (rung : Rung) (below : List Rung) (link : Link σ)
    (short : link.record.optical = true → rung.length ≤ 127)
    (held : kept link.channel.firmware) :
    Action.Ends (Transfer.descend settings direction sector rung below) link
      (fun _ after => kept after.channel.firmware) (fun _ after => kept after.channel.firmware)
      (fun _ _ => False) := by
  let ready (rung : Rung) (_ : List Rung) (link : Link σ) : Prop :=
    (link.record.optical = true → rung.length ≤ 127) ∧ kept link.channel.firmware
  -- On the optical drive no rung follows, so only its length has to be carried along.
  refine Transfer.descend_of_ready ready ?_ ⟨short, held⟩
  rintro rung below link ⟨short, held⟩
  cases isOptical : link.record.optical with
  | true =>
    rw [Transfer.attempt, isOptical, if_pos rfl]
    refine (dependable.attemptOptical_ends valid link.record.drive sector (short isOptical)
      held).mono (fun _ _ still => still) ?_
    rintro _ after ⟨⟨cause, rfl⟩, still⟩
    exact still
  | false =>
    rw [Transfer.attempt_of_plain settings isOptical]
    refine (dependable.attemptSectors_ends link.record direction sector rung.length held).mono
      (fun _ _ still => still) ?_
    intro refusal channel still
    cases refusal with
    | final cause => exact still
    | retryable status =>
      cases below with
      | nil => exact still
      | cons next rest =>
        refine ⟨fun optical => ?_, dependable.reset _ _ still⟩
        exact absurd (isOptical.symm.trans optical) Bool.false_ne_true

theorem transfer_ends {settings : Settings} {opticalDrive : Option DriveNumber}
    (valid : settings.check = .ok ()) (direction : Direction) (sector count : Nat) (link : Link σ)
    (sound : link.record.Sound opticalDrive) (held : kept link.channel.firmware) :
    Action.Ends (transfer settings direction sector count) link
      (fun _ after => kept after.channel.firmware) (fun _ after => kept after.channel.firmware)
      (fun _ _ => False) := by
  rw [transfer, Action.ends_look_bind]
  split
  · exact held
  · split
    · exact held
    · refine dependable.descend_ends valid direction sector _ _ link (fun isOptical => ?_) held
      have cap := sound.opticalCap isOptical
      simp only [Rung.top]
      omega

end Firmware.Dependable

end FirmwareDisk
