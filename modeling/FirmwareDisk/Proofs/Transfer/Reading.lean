import FirmwareDisk.Proofs.Medium.Readable
import FirmwareDisk.Proofs.Machine.Order
import FirmwareDisk.Proofs.Transfer.Descents

set_option autoImplicit false

namespace FirmwareDisk

namespace Drive

/-- The medium of a drive fills a buffer with the sectors from a given one on. -/
def Gives (lent : Lent Drive) (sector : Nat) : Prop :=
  (BlockDevice.read sector { buffer := lent.buffer, state := lent.state.medium }).1 = .ok ()

theorem move_gives (sector : Nat) (lent : Lent Drive) :
    Action.Ends (move .read sector) lent (fun _ _ => Gives lent sector) (fun _ _ => True)
      (fun _ _ => True) := by
  have given : Action.Ends (BlockDevice.read sector)
      { buffer := lent.buffer, state := lent.state.medium } (fun _ _ => Gives lent sector)
      (fun _ _ => True) (fun _ _ => True) :=
    .intro (fun _ _ run => by rw [Gives, run]) (fun _ _ _ => trivial) (fun _ _ _ => trivial)
  apply Action.Ends.mapError
  exact given.through
    (fun after => { buffer := after.buffer, state := { lent.state with medium := after.state } })
    rfl

/-- The legacy service reads what the medium gives. -/
theorem chsTransfer_gives (address : Chs) (count : UInt8) (lent : Lent Drive)
    (shape : Addressable lent.state.legacy.heads lent.state.legacy.sectors) :
    Action.Ends (chsTransfer .read address count) lent
      (fun _ _ => ∃ sector,
        address.linear? lent.state.legacy.heads lent.state.legacy.sectors = some sector ∧
          Gives lent sector)
      (fun _ _ => True) (fun _ _ => True) := by
  rw [chsTransfer, Action.ends_look_bind]
  split
  · exact Action.ends_refuse trivial
  · refine (accept_through count.toNat lent).bind ?_
    rintro _ _ rfl
    rw [Action.ends_look_bind]
    split
    · rw [address.linear64_eq shape, Action.ends_ok_bind]
      split
      · rename_i sector found
        exact (move_gives sector _).mono (fun _ _ gives => ⟨sector, found, gives⟩)
          (fun _ _ done => done)
      · exact Action.ends_refuse trivial
    · exact Action.ends_refuse trivial

/-- The extended service reads what the medium gives. -/
theorem blockTransfer_gives (packet : DiskAddressPacket) (lent : Lent Drive) :
    Action.Ends (blockTransfer .read packet) lent
      (fun _ _ => Gives lent (packet.block.toNat * lent.state.blockSectors))
      (fun _ _ => True) (fun _ _ => True) := by
  rw [blockTransfer, Action.ends_look_bind]
  split
  · exact Action.ends_refuse trivial
  · refine (accept_through packet.blocks.toNat lent).bind ?_
    rintro _ _ rfl
    rw [Action.ends_look_bind]
    split
    · exact Action.ends_refuse trivial
    · split
      · exact Action.ends_refuse trivial
      · dsimp only
        split
        · exact Action.ends_refuse trivial
        · exact move_gives _ _

end Drive

namespace Machine

variable {number : DriveNumber} {drive : Drive}

theorem chsTransfer_gives (address : Chs) (count : UInt8) (lent : Lent Machine)
    (attached : lent.state.drive? number = some drive)
    (shape : Addressable drive.legacy.heads drive.legacy.sectors) :
    Action.Ends (Firmware.chsTransfer .read number address count) lent
      (fun _ _ => ∃ sector,
        address.linear? drive.legacy.heads drive.legacy.sectors = some sector ∧
          Drive.Gives { buffer := lent.buffer, state := drive } sector)
      (fun _ _ => True) (fun _ _ => True) := by
  refine logged_ends trivial fun found same => ?_
  cases attached.symm.trans same
  exact Drive.chsTransfer_gives address count _ shape

theorem blockTransfer_gives (packet : DiskAddressPacket) (lent : Lent Machine)
    (attached : lent.state.drive? number = some drive) :
    Action.Ends (Firmware.blockTransfer .read number packet.encode) lent
      (fun _ _ => Drive.Gives { buffer := lent.buffer, state := drive }
        (packet.block.toNat * drive.blockSectors))
      (fun _ _ => True) (fun _ _ => True) := by
  simp only [Firmware.blockTransfer, DiskAddressPacket.decode?_encode]
  refine logged_ends trivial fun found same => ?_
  cases attached.symm.trans same
  exact Drive.blockTransfer_gives packet _

end Machine

namespace Transfer

variable {record : Geometry} {drive : Drive} {sector : Nat}

theorem readable_of_gives {channel : Channel Machine} {length : Nat}
    (room : length ≤ Staging.sectors)
    (gives : Drive.Gives
      { buffer := channel.staging.data.take (length * sectorSize), state := drive } sector) :
    drive.medium.Readable sector length :=
  Medium.readable_of_read (channel.staging.length_take_data (Staging.mul_le_byteSize room)) gives

theorem attemptSectors_readable (length : Nat) (channel : Channel Machine)
    (attached : channel.firmware.drive? record.drive = some drive)
    (describes : record.Describes drive) (small : sector < UInt64.size) :
    Action.Ends (attemptSectors record .read sector length) channel
      (fun _ _ => drive.medium.Readable sector length) (fun _ _ => True) (fun _ _ => True) := by
  apply attemptSectors_of_service (fun _ _ => trivial) (fun _ _ _ => trivial)
  · intro room _
    refine (Machine.blockTransfer_gives _ _ attached).mono ?_ (fun _ _ _ => trivial)
    intro _ _ gives
    rw [toNat_block small, Drive.blockSectors, if_neg describes.plain, Nat.mul_one] at gives
    exact readable_of_gives room gives
  · intro room _ address found
    have named := describes.linear?_address found
    refine (Machine.chsTransfer_gives address _ _ attached describes.shape).mono ?_
      (fun _ _ _ => trivial)
    rintro _ _ ⟨place, linear, gives⟩
    cases named.symm.trans linear
    exact readable_of_gives room gives

end Transfer

/-- The sectors that a transfer has read are readable all at once. -/
theorem transfer_readable {drive : Drive} (settings : Settings) {sector count : Nat}
    (link : Link Machine) (reaches : link.Reaches drive) (small : sector < UInt64.size)
    (wanted : 0 < count) :
    Action.Ends (transfer settings .read sector count) link
      (fun moved _ => drive.medium.Readable sector moved) (fun _ _ => True) (fun _ _ => True) := by
  apply Action.Ends.of_run (transfer_eq_descend settings .read sector link reaches.plain wanted)
  refine Transfer.descend_of_ready
    (fun _ _ lower => ∃ held, lower.Reaches held ∧ held.medium = drive.medium) ?_
    ⟨drive, reaches, rfl⟩
  rintro rung below lower ⟨held, still, same⟩
  rw [Transfer.attempt_of_plain settings still.plain]
  have tried := Transfer.attemptSectors_ends .read rung.length lower.channel still.attached
    still.describes small
  have given := Transfer.attemptSectors_readable rung.length lower.channel still.attached
    still.describes small
  refine ((tried.and given).mono ?_ ?_).unfaulted
  · rintro _ channel ⟨_, readable⟩
    exact same ▸ readable
  · rintro refusal channel ⟨failed, _⟩
    cases refusal with
    | final cause => exact trivial
    | retryable status =>
      cases below with
      | nil => exact trivial
      | cons next rest =>
        have reset := failed.trans (.reset lower.record.drive lower.record.drive .read channel)
        obtain ⟨last, reached, kept⟩ := still.failed (.settle next lower.record) reset
        exact ⟨last, reached, kept.trans same⟩

end FirmwareDisk
