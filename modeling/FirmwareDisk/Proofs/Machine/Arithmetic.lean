import FirmwareDisk.Proofs.Machine.Queries
import FirmwareDisk.Proofs.Transfer.Arithmetic
import FirmwareDisk.Proofs.Transfer.Optical

set_option autoImplicit false

namespace FirmwareDisk

namespace Drive

/-- The extended transfer service. The first sector of the blocks is asked for, and may be beyond
64 bits; then there is no such sector. -/
def blockTransfer64 (direction : Direction) (packet : DiskAddressPacket) :
    Checked (Lent Drive) Status Unit := do
  let drive ← .run (Action.look Lent.state)
  if !drive.extensions || drive.brokenExtensions then .run (Action.refuse .invalidCommand)
  else do
    let blocks := packet.blocks.toNat
    .run (Lent.aside (accept blocks))
    let length ← .run (Action.look (·.buffer.length))
    if drive.kind = .optical ∧ direction = .write then .run (Action.refuse .writeProtected)
    else do
      let sectors ← .compute (mul64 blocks drive.blockSectors)
      let size ← .compute (mul64 sectors sectorSize)
      if blocks = 0 ∨ length ≠ size then .run (Action.refuse .invalidCommand)
      else
        match mul64 packet.block.toNat drive.blockSectors with
        | none => .run (Action.refuse .sectorNotFound)
        | some start => .run (move direction start)

theorem blockSectors_le (drive : Drive) : drive.blockSectors ≤ 4 := by
  unfold blockSectors
  split <;> decide

/-- The arithmetic of the extended service fits, whatever the packet asks for. -/
theorem blockTransfer64_fits (direction : Direction) (packet : DiskAddressPacket)
    (lent : Lent Drive) :
    (blockTransfer64 direction packet).Fits (blockTransfer direction packet) lent := by
  apply Checked.Fits.look
  split
  · exact Checked.fits_run _ lent
  · apply (Checked.fits_run _ lent).bind
    intro _ accepted _
    apply Checked.Fits.look
    split
    · exact Checked.fits_run _ accepted
    · have blocks := packet.blocks.toNat_lt
      have few := lent.state.blockSectors_le
      have sectors : packet.blocks.toNat * lent.state.blockSectors ≤ 0x10000 * 4 :=
        Nat.mul_le_mul (Nat.le_of_lt blocks) few
      have limit : UInt64.size = 0x10000000000000000 := rfl
      have size : sectorSize = 512 := rfl
      apply Checked.Fits.compute (mul64_of_lt (by omega))
      apply Checked.Fits.compute (mul64_of_lt (by rw [size]; omega))
      split
      · exact Checked.fits_run _ accepted
      · by_cases far : UInt64.size ≤ packet.block.toNat * lent.state.blockSectors
        · rw [if_pos far, mul64, if_neg (Nat.not_lt.mpr far)]
          exact Checked.fits_run _ accepted
        · rw [if_neg far, mul64_of_lt (Nat.not_le.mp far)]
          exact Checked.fits_run _ accepted

end Drive

theorem Geometry.le_of_address {record : Geometry} {sector : Nat} {address : Chs}
    (found : record.address sector = .ok address) : sector ≤ addressableSectors := by
  unfold Geometry.address at found
  dsimp only at found
  split at found
  · cases found
  · omega

namespace Transfer

variable {settings : Settings} {sector length : Nat}

def origin (settings : Settings) (record : Geometry) (sector : Nat) : Nat :=
  if record.optical then sector / settings.opticalSpan * settings.opticalSpan else sector

/-- By linear number, a service grants no transfer that ends beyond 64 bits; by address, there is no
such transfer, and only there can the service fault. -/
theorem attemptSectors_inside (record : Geometry) (direction : Direction)
    (channel : Channel Machine) (small : sector < UInt64.size) :
    Action.Ends (attemptSectors record direction sector length) channel
      (fun _ _ => sector + length < UInt64.size) (fun _ _ => True)
      (fun _ _ => sector ≤ Geometry.addressableSectors) := by
  have limit : UInt64.size = 0x10000000000000000 := rfl
  have sectors : Staging.sectors = 128 := rfl
  have most : Geometry.addressableSectors = 16515072 := rfl
  apply attemptSectors_of_service
  · exact fun _ _ => trivial
  · exact fun _ _ _ => trivial
  · intro room _
    have lent := channel.staging.length_take_data (Staging.mul_le_byteSize room)
    refine ((@Machine.blockTransfer_span record.drive 1 direction _ _ ?_).mono ?_
      (fun _ _ _ => trivial)).unfaulted
    · rw [lent, toNat_blocks room, Nat.mul_one]
    · rintro _ _ ⟨drive, -, moved⟩
      obtain ⟨count, whole, inside, -⟩ := moved.inside
      rw [lent] at whole
      rw [← Nat.eq_of_mul_eq_mul_right (by decide : 0 < sectorSize) whole, Nat.mul_one,
        toNat_block small] at inside
      exact inside
  · intro room _ address found
    have near := Geometry.le_of_address found
    exact .intro (fun _ _ _ => by omega) (fun _ _ _ => trivial) (fun _ _ _ => near)

/-- The blocks that hold the sectors of a transfer end within 64 bits, and so do the sectors. -/
theorem attemptOptical_inside (valid : settings.check = .ok ()) (number : DriveNumber)
    (channel : Channel Machine) (small : sector < UInt64.size) (short : length ≤ 127) :
    Action.Ends (attemptOptical settings number sector length) channel
      (fun _ _ => sector / settings.opticalSpan * settings.opticalSpan + length < UInt64.size)
      (fun _ _ => True) (fun _ _ => False) := by
  obtain ⟨positive, -⟩ := opticalSpan_bounds valid
  have sectors : Staging.sectors = 128 := rfl
  have block := Nat.div_le_self sector settings.opticalSpan
  have holds := @le_blocks length settings.opticalSpan positive
  rw [attemptOptical_of_short valid number sector short]
  dsimp only
  generalize (length + (settings.opticalSpan - 1)) / settings.opticalSpan = blocks at holds ⊢
  rw [packet, Action.ends_look_bind]
  apply reserve_bind_ends (fun _ _ => trivial)
  intro reserved
  have room := Staging.checkRegion_sectors reserved
  have counted : (UInt16.ofNat blocks).toNat = blocks := by
    have fewer := Nat.le_mul_of_pos_right blocks positive
    exact toNat_blocks (by omega)
  refine (tryTimes_of_service (fun other => ?_) _ channel).mono (fun _ _ inside => inside)
    (fun _ _ _ => trivial)
  let packet : DiskAddressPacket := {
    blocks := UInt16.ofNat blocks
    buffer := channel.staging.startPointer
    block := UInt64.ofNat (sector / settings.opticalSpan) }
  have served := @Channel.lend_blocks_ends number settings.opticalSpan packet other
    (by rwa [counted])
  rw [counted, toNat_block (by omega)] at served
  refine served.mono ?_ (fun _ _ _ => trivial)
  rintro _ _ ⟨_, -, moved⟩
  have inside := moved.inside
  omega

/-- No attempt moves sectors beyond 64 bits. -/
theorem attempt_inside (valid : settings.check = .ok ()) (record : Geometry)
    (direction : Direction) (channel : Channel Machine) (small : sector < UInt64.size)
    (short : length ≤ 127) :
    Action.Ends (attempt settings record direction sector length) channel
      (fun _ _ => origin settings record sector + length < UInt64.size) (fun _ _ => True)
      (fun _ _ => sector ≤ Geometry.addressableSectors) := by
  unfold attempt origin
  cases record.optical with
  | true => exact (attemptOptical_inside valid record.drive channel small short).unfaulted
  | false => exact attemptSectors_inside record direction channel small

end Transfer

/-- A transfer over a link to a machine ends within 64 bits, however far it has to come down. -/
theorem transfer_inside {settings : Settings} (valid : settings.check = .ok ())
    (direction : Direction) {sector : Nat} (count : Nat) (link : Link Machine)
    (few : link.record.cap ≤ 127) (small : sector < UInt64.size) :
    Action.Ends (transfer settings direction sector count) link
      (fun moved _ => Transfer.origin settings link.record sector + moved < UInt64.size)
      (fun _ _ => True) (fun _ _ => sector ≤ Geometry.addressableSectors) := by
  rw [transfer, Action.ends_look_bind]
  split
  · have back := Nat.div_mul_le_self sector settings.opticalSpan
    change Transfer.origin settings link.record sector + 0 < UInt64.size
    unfold Transfer.origin
    split <;> omega
  rename_i wanted
  split
  · trivial
  refine Transfer.descend_of_ready
    (fun rung below lower => lower.record.optical = link.record.optical ∧
      ∀ next ∈ rung :: below, next.length ≤ 127) ?_
    ⟨rfl, fun _ member => Rung.ladder_few few wanted member⟩
  rintro rung below lower ⟨same, short⟩
  have tried := Transfer.attempt_inside valid lower.record direction lower.channel small
    (short rung List.mem_cons_self)
  have origin : Transfer.origin settings lower.record sector =
      Transfer.origin settings link.record sector := by
    unfold Transfer.origin
    rw [same]
  rw [origin] at tried
  refine tried.mono (fun _ _ inside => inside) ?_
  intro refusal channel _
  cases refusal with
  | final cause => trivial
  | retryable status =>
    cases below with
    | nil => trivial
    | cons next rest =>
      exact ⟨same, fun later member => short later (List.mem_cons_of_mem rung member)⟩

end FirmwareDisk
