import FirmwareDisk.Proofs.Transfer.Acceptance

set_option autoImplicit false

namespace FirmwareDisk

theorem Geometry.Describes.address_ok {record : Geometry} {drive : Drive} {sector : Nat}
    (describes : record.Describes drive) (addressed : sector < drive.addressed) :
    ∃ address, record.address sector = .ok address := by
  obtain ⟨address, found, -⟩ := @Describes.serves record drive sector 1 describes Nat.one_pos
    (by decide) (record.restOfTrack_pos sector) addressed
  exact ⟨address, found⟩

namespace Transfer

variable {drive : Drive} {sector length : Nat}

theorem attempt_calm (settings : Settings) {link : Link Machine} (reaches : link.Reaches drive)
    (calm : drive.transientFailures = 0) (room : length ≤ Staging.sectors)
    (addressed : sector < drive.addressed) :
    Action.Ends (attempt settings link.record .read sector length) link.channel
      (fun _ after => after.firmware.drive? link.record.drive = some drive)
      (fun refusal after => (∃ status, refusal = .retryable status) ∧
        after.firmware.drive? link.record.drive = some drive)
      (fun _ _ => False) := by
  rw [attempt_of_plain settings reaches.plain]
  apply attemptSectors_of_service
  · intro cause refused
    rw [Staging.checkRegion_of_le room] at refused
    cases refused
  · intro _ cause refused
    obtain ⟨address, found⟩ := reaches.describes.address_ok addressed
    rw [found] at refused
    cases refused
  · intro _ _
    exact (Machine.blockTransfer_calm _ reaches.attached calm).mono (fun _ _ still => still)
      (fun status _ still => ⟨⟨status, rfl⟩, still⟩)
  · intro _ _ address _
    exact (Machine.chsTransfer_calm address _ reaches.attached reaches.describes.shape calm).mono
      (fun _ _ still => still) (fun status _ still => ⟨⟨status, rfl⟩, still⟩)

end Transfer

/-- A transfer that reads a drive without pending failures, whether the drive has the sectors or
not. -/
theorem transfer_read_calm {drive : Drive} (settings : Settings) {sector count : Nat}
    (link : Link Machine) (reaches : link.Reaches drive) (calm : drive.transientFailures = 0)
    (cap : link.record.cap ≤ 127) (wanted : 0 < count) (addressed : sector < drive.addressed) :
    Action.Ends (transfer settings .read sector count) link
      (fun _ after => link.record.Settled after.record ∧
        after.channel.firmware.drive? link.record.drive = some drive)
      (fun cause after => cause = .readFailed link.record.drive.name ∧
        link.record.Settled after.record ∧
        after.channel.firmware.drive? link.record.drive = some drive)
      (fun _ _ => False) := by
  apply Action.Ends.of_run (transfer_eq_descend settings .read sector link reaches.plain wanted)
  have few := Rung.top_few cap sector count
  have rungs (rung : Rung) (member : rung ∈ Rung.ladder link.record sector count) :
      rung.length ≤ Staging.sectors := by
    have bounds := Rung.ladder_bounds wanted member
    have limit : Staging.sectors = 128 := rfl
    omega
  refine Transfer.descend_of_ready
    (fun rung below lower => (∀ other ∈ rung :: below, other.length ≤ Staging.sectors) ∧
      link.record.Settled lower.record ∧ lower.Reaches drive) ?_
    ⟨rungs, .refl link.record, reaches⟩
  rintro rung below lower ⟨room, settled, still⟩
  have own := settled.drive
  refine (Transfer.attempt_calm settings still calm (room rung List.mem_cons_self) addressed).mono
    ?_ ?_
  · intro _ channel attached
    exact ⟨settled.trans (.settle rung lower.record), own ▸ attached⟩
  · rintro _ channel ⟨⟨status, rfl⟩, attached⟩
    cases below with
    | nil => exact ⟨congrArg (Transfer.exhausted .read) own, settled, own ▸ attached⟩
    | cons next rest =>
      have lowered : lower.record.Settled (next.settle lower.record) := .settle next lower.record
      exact ⟨fun other member => room other (List.mem_cons_of_mem rung member),
        settled.trans lowered, still.plain, attached, lowered.describes still.describes⟩

end FirmwareDisk
