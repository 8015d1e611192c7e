import FirmwareDisk.Transfer.Ladder
import FirmwareDisk.Proofs.Machine.Transfers
import FirmwareDisk.Proofs.Staging

set_option autoImplicit false

namespace FirmwareDisk

/-- A record that names the sectors of a drive as the drive itself does. -/
structure Geometry.Describes (record : Geometry) (drive : Drive) : Prop where
  plain : drive.kind ≠ .optical
  heads : record.heads = drive.legacy.heads
  sectors : record.sectors = drive.legacy.sectors
  shape : Addressable drive.legacy.heads drive.legacy.sectors

theorem Geometry.Describes.linear?_address {record : Geometry} {drive : Drive} {sector : Nat}
    {address : Chs} (describes : record.Describes drive)
    (found : record.address sector = .ok address) :
    address.linear? drive.legacy.heads drive.legacy.sectors = some sector := by
  have shape := describes.shape
  rw [← describes.heads, ← describes.sectors] at shape ⊢
  exact Geometry.linear?_address shape found

theorem Drive.Patched.describes {record : Geometry} {start : Nat} {bytes : Bytes}
    {before after : Drive} (patched : Patched start bytes before after)
    (describes : record.Describes before) : record.Describes after where
  plain := by rw [patched.kind]; exact describes.plain
  heads := by rw [patched.legacy]; exact describes.heads
  sectors := by rw [patched.legacy]; exact describes.sectors
  shape := by rw [patched.legacy]; exact describes.shape

namespace Channel

/-- A transfer of `count` sectors between a drive and the start of the staging buffer. -/
structure Moved (number : DriveNumber) (drive : Drive) (direction : Direction) (sector count : Nat)
    (before after : Channel Machine) : Prop where
  room : count ≤ Staging.sectors
  inside : sector + count < UInt64.size
  fits : sector + count ≤ BlockDevice.totalSectors drive.medium
  patched : Machine.Patched number (sector * sectorSize)
    (direction.sent (before.staging.data.take (count * sectorSize))) before.firmware after.firmware
  data : direction = .read → after.staging.data.take (count * sectorSize) =
    drive.medium.flat.slice (sector * sectorSize) (count * sectorSize)
  kept : direction = .write → after.staging = before.staging

/-- A transfer that came to nothing. A read may have left bytes in the staging buffer. -/
structure Failed (number : DriveNumber) (direction : Direction) (before after : Channel Machine) :
    Prop where
  kept : direction = .write → after.staging = before.staging
  idle : Machine.Idle number before.firmware after.firmware

variable {number : DriveNumber} {drive : Drive} {direction : Direction} {sector count : Nat}
  {before after : Channel Machine}

theorem Failed.refl (number : DriveNumber) (direction : Direction) (channel : Channel Machine) :
    Failed number direction channel channel where
  kept _ := rfl
  idle start := .of_drives number start fun _ => rfl

theorem returned_same {sent : Lent Machine} (room : count ≤ Staging.sectors)
    (same : sent.buffer = before.staging.data.take (count * sectorSize)) :
    (before.returned (count * sectorSize) sent).staging = before.staging := by
  have back : sent.buffer.take (count * sectorSize) =
      before.staging.data.take (count * sectorSize) := by
    rw [same, List.take_take, Nat.min_self]
  exact (congrArg (before.staging.fill 0) back).trans
    (before.staging.fill_take (Staging.mul_le_byteSize room))

/-- What a service does to the part of the staging buffer lent to it is what happens to the whole.
-/
theorem Moved.of_lent {sent : Lent Machine} (room : count ≤ Staging.sectors)
    (moved : Machine.Moved number drive direction sector
      (before.lent (count * sectorSize)) sent) :
    Moved number drive direction sector count before
      (before.returned (count * sectorSize) sent) := by
  have fits := Staging.mul_le_byteSize room
  have length := before.staging.length_take_data fits
  have inside := moved.inside
  have buffer := moved.buffer
  simp only [length] at inside buffer
  obtain ⟨same, within, bound, present⟩ := inside
  have equal : count = same := Nat.eq_of_mul_eq_mul_right (by decide) within
  subst equal
  refine ⟨room, bound, present, moved.patched, ?_, ?_⟩
  · rintro rfl
    have whole : sent.buffer.length = count * sectorSize := by
      rw [buffer]
      exact Flat.length_slice _ _ _
    have filled := before.staging.take_fill (sent.buffer.take (count * sectorSize))
      (by rwa [List.length_take, whole, Nat.min_self])
    rw [List.take_of_length_le (Nat.le_of_eq whole), whole] at filled
    rw [returned, List.take_of_length_le (Nat.le_of_eq whole), filled, buffer]
    rfl
  · rintro rfl
    exact returned_same room buffer

theorem Failed.of_lent {sent : Lent Machine} (room : count ≤ Staging.sectors)
    (failed : Machine.Failed number direction (before.lent (count * sectorSize)) sent) :
    Failed number direction before (before.returned (count * sectorSize) sent) where
  idle := failed.idle
  kept writing := returned_same room (failed.kept writing)

end Channel

namespace Transfer

variable {record : Geometry} {drive : Drive} {sector : Nat}

/-- The attempt at a plain transfer, on a drive that the record describes. -/
theorem attemptSectors_ends (direction : Direction) (length : Nat) (channel : Channel Machine)
    (attached : channel.firmware.drive? record.drive = some drive)
    (describes : record.Describes drive) (small : sector < UInt64.size) :
    Action.Ends (attemptSectors record direction sector length) channel
      (fun _ after => Channel.Moved record.drive drive direction sector length channel after)
      (fun _ after => Channel.Failed record.drive direction channel after)
      (fun _ _ => False) := by
  have shaped : channel.firmware.Shaped record.drive := by
    intro other same
    cases attached.symm.trans same
    exact describes.shape
  apply attemptSectors_of_service
  · intro cause _
    exact .refl record.drive direction channel
  · intro _ cause _
    exact .refl record.drive direction channel
  · intro room _
    refine (Machine.blockTransfer_ends direction _ _).mono ?_ ?_
    · rintro _ after ⟨other, moved⟩
      cases attached.symm.trans moved.attached
      rw [toNat_block small, Drive.blockSectors, if_neg describes.plain, Nat.mul_one] at moved
      exact .of_lent room moved
    · intro _ after failed
      exact .of_lent room failed
  · intro room _ address found
    have named := describes.linear?_address found
    refine (Machine.chsTransfer_ends direction address _ _ shaped).mono ?_ ?_
    · rintro _ after ⟨other, place, linear, moved⟩
      cases attached.symm.trans moved.attached
      cases named.symm.trans linear
      exact .of_lent room moved
    · intro _ after failed
      exact .of_lent room failed

end Transfer

end FirmwareDisk
