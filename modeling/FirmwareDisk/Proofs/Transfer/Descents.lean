import FirmwareDisk.Proofs.Transfer.Attempts
import FirmwareDisk.Proofs.Transfer.Rungs

set_option autoImplicit false

namespace FirmwareDisk

theorem Geometry.Settled.describes {before after : Geometry} {drive : Drive}
    (settled : before.Settled after) (describes : before.Describes drive) :
    after.Describes drive := by
  obtain ⟨_, _, rfl⟩ := settled
  exact ⟨describes.plain, describes.heads, describes.sectors, describes.shape⟩

namespace Channel

variable {number : DriveNumber} {direction : Direction} {before middle after : Channel Machine}

theorem Failed.trans (front : Failed number direction before middle)
    (back : Failed number direction middle after) : Failed number direction before after where
  kept writing := (back.kept writing).trans (front.kept writing)
  idle := front.idle.trans back.idle

/-- A transfer after some that came to nothing is like the first one. -/
theorem Failed.moved {held drive : Drive} {sector count : Nat}
    (front : Failed number direction before middle)
    (same : held.medium = drive.medium)
    (back : Moved number held direction sector count middle after) :
    Moved number drive direction sector count before after where
  room := back.room
  inside := back.inside
  fits := by
    rw [← same]
    exact back.fits
  patched := by
    have patched := (front.idle (sector * sectorSize)).after_nothing back.patched
    cases direction with
    | read => exact patched
    | write => rwa [front.kept rfl] at patched
  data reading := by
    rw [← same]
    exact back.data reading
  kept writing := (back.kept writing).trans (front.kept writing)

theorem Failed.reset (number other : DriveNumber) (direction : Direction)
    (channel : Channel Machine) :
    Failed number direction channel
      { channel with firmware := Firmware.reset other channel.firmware } where
  kept _ := rfl
  idle start := .of_drives number start fun _ => rfl

end Channel

/-- A link to a drive of the machine, which its record describes. -/
structure Link.Reaches (link : Link Machine) (drive : Drive) : Prop where
  plain : link.record.optical = false
  attached : link.channel.firmware.drive? link.record.drive = some drive
  describes : link.record.Describes drive

/-- A link still reaches its drive after a transfer that came to nothing. -/
theorem Link.Reaches.failed {link : Link Machine} {drive : Drive} {record : Geometry}
    {direction : Direction} {channel : Channel Machine} (reaches : link.Reaches drive)
    (settled : link.record.Settled record)
    (failed : Channel.Failed link.record.drive direction link.channel channel) :
    ∃ held, Link.Reaches { record, channel } held ∧ held.medium = drive.medium := by
  obtain ⟨held, found, patched⟩ := (failed.idle 0).there drive reaches.attached
  refine ⟨held, ⟨?_, ?_, ?_⟩, patched.untouched rfl⟩
  · exact settled.optical.trans reaches.plain
  · dsimp only
    rw [settled.drive]
    exact found
  · exact settled.describes (patched.describes reaches.describes)

namespace Transfer

variable {sector : Nat} {drive : Drive} (settings : Settings) (direction : Direction)

theorem descend_ends (rung : Rung) (below : List Rung) (link : Link Machine)
    (reaches : link.Reaches drive) (small : sector < UInt64.size) :
    Action.Ends (descend settings direction sector rung below) link
      (fun moved after => link.record.Settled after.record ∧
        Channel.Moved link.record.drive drive direction sector moved link.channel after.channel)
      (fun _ after => link.record.Settled after.record ∧
        Channel.Failed link.record.drive direction link.channel after.channel)
      (fun _ _ => False) := by
  let ready (_ : Rung) (_ : List Rung) (lower : Link Machine) : Prop :=
    link.record.Settled lower.record ∧
      Channel.Failed link.record.drive direction link.channel lower.channel ∧
      ∃ held, lower.Reaches held ∧ held.medium = drive.medium
  refine descend_of_ready ready ?_
    ⟨.refl link.record, .refl link.record.drive direction link.channel, drive, reaches, rfl⟩
  intro rung below lower before
  obtain ⟨settled, idle, held, still, same⟩ := before
  rw [attempt_of_plain settings still.plain]
  refine (attemptSectors_ends direction rung.length lower.channel still.attached still.describes
    small).mono ?_ ?_
  · intro _ channel moved
    rw [settled.drive] at moved
    exact ⟨settled.trans (.settle rung lower.record), idle.moved same moved⟩
  · intro refusal channel failed
    rw [settled.drive] at failed
    have nothing := idle.trans failed
    cases refusal with
    | final cause => exact ⟨settled, nothing⟩
    | retryable status =>
      cases below with
      | nil => exact ⟨settled, nothing⟩
      | cons next rest =>
        have further : link.record.Settled (next.settle lower.record) :=
          settled.trans (.settle next lower.record)
        have reset := nothing.trans (.reset link.record.drive lower.record.drive direction channel)
        exact ⟨further, reset, reaches.failed further reset⟩

end Transfer

/-- A transfer moves some of the sectors that it is asked for, or none at all. -/
theorem transfer_ends {drive : Drive} (settings : Settings) (direction : Direction)
    {sector count : Nat} (link : Link Machine) (reaches : link.Reaches drive)
    (small : sector < UInt64.size) (wanted : 0 < count) :
    Action.Ends (transfer settings direction sector count) link
      (fun moved after => (0 < moved ∧ moved ≤ count) ∧ link.record.Settled after.record ∧
        Channel.Moved link.record.drive drive direction sector moved link.channel after.channel)
      (fun _ after => link.record.Settled after.record ∧
        Channel.Failed link.record.drive direction link.channel after.channel)
      (fun _ _ => False) := by
  have descended := transfer_eq_descend settings direction sector link reaches.plain wanted
  have ends := Transfer.descend_ends settings direction (Rung.top link.record sector count)
    ((Rung.top link.record sector count).below link.record) link reaches small
  apply Action.Ends.intro
  · intro moved after run
    exact ⟨transfer_moved wanted run, ends.of_ok (descended ▸ run)⟩
  · intro cause after run
    exact ends.of_error (descended ▸ run)
  · intro reason after run
    exact ends.of_fault (descended ▸ run)

end FirmwareDisk
