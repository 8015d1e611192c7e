import FirmwareDisk.Proofs.Machine.Order
import FirmwareDisk.Proofs.Transfer.Descents
import FirmwareDisk.Proofs.Transfer.Soundness
import FirmwareDisk.Proofs.Transfer.Trails

set_option autoImplicit false

namespace FirmwareDisk

/-- A run of blocks that is asked for: what the tries were refused with, and whether there was a last
one that was granted. -/
structure Round where
  packet : DiskAddressPacket
  refusals : List Status
  granted : Bool
deriving DecidableEq

namespace Round

def blocks (round : Round) : Nat :=
  round.packet.blocks.toNat

/-- A try at a run of blocks of `span` sectors, as the transcript has it. -/
def attempt (number : DriveNumber) (span : Nat) (packet : DiskAddressPacket)
    (answer : Outcome Status Unit) : Exchange where
  request := .block .read number packet.encode
  lent := packet.blocks.toNat * span * sectorSize
  answer

def exchanges (number : DriveNumber) (span : Nat) (round : Round) : List Exchange :=
  round.refusals.map (fun status => attempt number span round.packet (.error status)) ++
    if round.granted then [attempt number span round.packet (.ok ())] else []

/-- A round that was granted within so many tries. -/
structure Held (tries : Nat) (round : Round) : Prop where
  granted : round.granted = true
  within : round.refusals.length < tries

/-- A round of which every try was refused. -/
structure Lost (tries : Nat) (round : Round) : Prop where
  refused : round.granted = false
  all : round.refusals.length = tries

/-- A round for some blocks. -/
structure For (block blocks : Nat) (round : Round) : Prop where
  block : round.packet.block.toNat = block
  blocks : round.blocks = blocks

theorem exchanges_cons (number : DriveNumber) (span : Nat) (packet : DiskAddressPacket)
    (status : Status) (refusals : List Status) (granted : Bool) :
    ({ packet, refusals := status :: refusals, granted } : Round).exchanges number span =
      attempt number span packet (.error status) ::
        ({ packet, refusals, granted } : Round).exchanges number span := by
  rw [exchanges, exchanges, List.map_cons, List.cons_append]

end Round

/-- The blocks that a drive is asked for have to be as large as the buffer says. -/
theorem Machine.blockTransfer_span {number : DriveNumber} {span : Nat} (direction : Direction)
    (packet : DiskAddressPacket) (lent : Lent Machine)
    (whole : lent.buffer.length = packet.blocks.toNat * span * sectorSize) :
    Action.Ends (Firmware.blockTransfer direction number packet.encode) lent
      (fun _ after => ∃ drive, lent.state.drive? number = some drive ∧
        Moved number drive direction (packet.block.toNat * span) lent after)
      (fun _ after => Failed number direction lent after) (fun _ _ => False) := by
  refine ((blockTransfer_ends direction packet lent).and
    (blockTransfer_blocks direction packet lent)).mono ?_ (fun _ _ failed => failed.1)
  rintro _ after ⟨⟨drive, moved⟩, other, attached, nonzero, length⟩
  cases attached.symm.trans moved.attached
  rw [whole] at length
  have same : span = drive.blockSectors :=
    Nat.eq_of_mul_eq_mul_left (Nat.pos_of_ne_zero nonzero)
      (Nat.eq_of_mul_eq_mul_right (by decide : 0 < sectorSize) length)
  rw [← same] at moved
  exact ⟨drive, attached, moved⟩

namespace Channel

variable {number : DriveNumber} {span : Nat}

theorem lend_blocks_ends (packet : DiskAddressPacket) (channel : Channel Machine)
    (room : packet.blocks.toNat * span ≤ Staging.sectors) :
    Action.Ends (Channel.lend (packet.blocks.toNat * span * sectorSize)
        (Firmware.blockTransfer .read number packet.encode)) channel
      (fun _ after => ∃ drive, channel.firmware.drive? number = some drive ∧
        Moved number drive .read (packet.block.toNat * span) (packet.blocks.toNat * span)
          channel after)
      (fun _ after => Failed number .read channel after) (fun _ _ => False) := by
  apply Channel.lend_ends
  refine (Machine.blockTransfer_span .read packet _
    (channel.staging.length_take_data (Staging.mul_le_byteSize room))).mono ?_ ?_
  · rintro _ after ⟨drive, attached, moved⟩
    exact ⟨drive, attached, .of_lent room moved⟩
  · exact fun _ _ failed => .of_lent room failed

theorem lend_blocks_watched (packet : DiskAddressPacket) (channel : Channel (Watched Machine))
    (room : packet.blocks.toNat * span ≤ Staging.sectors) :
    Action.Ends (Channel.lend (packet.blocks.toNat * span * sectorSize)
        (Firmware.blockTransfer .read number packet.encode)) channel
      (fun _ after =>
        after.firmware.transcript =
          channel.firmware.transcript ++ [Round.attempt number span packet (.ok ())] ∧
        ∃ drive, channel.firmware.firmware.drive? number = some drive ∧
          Moved number drive .read (packet.block.toNat * span) (packet.blocks.toNat * span)
            (channel.map Watched.firmware) (after.map Watched.firmware))
      (fun status after =>
        after.firmware.transcript =
          channel.firmware.transcript ++ [Round.attempt number span packet (.error status)] ∧
        Failed number .read (channel.map Watched.firmware) (after.map Watched.firmware))
      (fun _ _ => False) := by
  have ends := Action.Simulates.ends
    (Channel.simulates_lend (Watched.simulation.blockTransfer .read number packet.encode)
      (packet.blocks.toNat * span * sectorSize))
    (lend_blocks_ends packet (channel.map Watched.firmware) room)
  have heard := Transfer.lend_watched channel (.block .read number packet.encode)
    (Firmware.blockTransfer .read number packet.encode) (Staging.mul_le_byteSize room)
  apply Action.Ends.intro
  · intro _ after run
    have transcript := heard.transcript
    change Channel.lend _ (Watched.served _ _) channel = _ at run
    rw [run] at transcript
    exact ⟨transcript, ends.of_ok run⟩
  · intro status after run
    have transcript := heard.transcript
    change Channel.lend _ (Watched.served _ _) channel = _ at run
    rw [run] at transcript
    exact ⟨transcript, ends.of_error run⟩
  · intro reason after run
    exact ends.of_fault run

theorem Failed.attached {direction : Direction} {before after : Channel Machine} {held : Drive}
    (failed : Failed number direction before after)
    (attached : after.firmware.drive? number = some held) :
    ∃ drive, before.firmware.drive? number = some drive ∧ held.medium = drive.medium := by
  have media := failed.idle.media number
  rw [attached, Option.map_some] at media
  obtain ⟨drive, found, same⟩ := Option.map_eq_some_iff.mp media.symm
  exact ⟨drive, found, same.symm⟩

end Channel

namespace Transfer

variable {number : DriveNumber} {span : Nat}

/-- A round that was granted, and what it moved. -/
structure Granted (number : DriveNumber) (span tries : Nat) (before after : Channel (Watched Machine))
    (round : Round) : Prop where
  held : round.Held tries
  transcript : after.firmware.transcript =
    before.firmware.transcript ++ round.exchanges number span
  moved : ∃ drive, before.firmware.firmware.drive? number = some drive ∧
    Channel.Moved number drive .read (round.packet.block.toNat * span) (round.blocks * span)
      (before.map Watched.firmware) (after.map Watched.firmware)

/-- A round that came to nothing. -/
structure Denied (number : DriveNumber) (span tries : Nat) (before after : Channel (Watched Machine))
    (round : Round) : Prop where
  lost : round.Lost tries
  transcript : after.firmware.transcript =
    before.firmware.transcript ++ round.exchanges number span
  failed : Channel.Failed number .read (before.map Watched.firmware) (after.map Watched.firmware)

variable {before middle after : Channel (Watched Machine)} {packet : DiskAddressPacket}
  {status : Status} {tries : Nat} {refusals : List Status}

/-- A refusal in front of a round. -/
theorem Granted.cons
    (transcript : middle.firmware.transcript =
      before.firmware.transcript ++ [Round.attempt number span packet (.error status)])
    (failed : Channel.Failed number .read (before.map Watched.firmware) (middle.map Watched.firmware))
    (rest : Granted number span tries middle after { packet, refusals, granted := true }) :
    Granted number span (tries + 1) before after
      { packet, refusals := status :: refusals, granted := true } where
  held := ⟨rfl, Nat.succ_lt_succ rest.held.within⟩
  transcript := by
    rw [rest.transcript, transcript, Round.exchanges_cons, List.append_assoc, List.singleton_append]
  moved := by
    obtain ⟨held, there, moved⟩ := rest.moved
    obtain ⟨drive, attached, same⟩ := failed.attached there
    exact ⟨drive, attached, failed.moved same moved⟩

theorem Denied.cons
    (transcript : middle.firmware.transcript =
      before.firmware.transcript ++ [Round.attempt number span packet (.error status)])
    (failed : Channel.Failed number .read (before.map Watched.firmware) (middle.map Watched.firmware))
    (rest : Denied number span tries middle after { packet, refusals, granted := false }) :
    Denied number span (tries + 1) before after
      { packet, refusals := status :: refusals, granted := false } where
  lost := ⟨rfl, congrArg Nat.succ rest.lost.all⟩
  transcript := by
    rw [rest.transcript, transcript, Round.exchanges_cons, List.append_assoc, List.singleton_append]
  failed := failed.trans rest.failed

/-- A service that is tried again and again is one round. -/
theorem tryTimes_ends (cause : DiskError) (packet : DiskAddressPacket) (tries : Nat)
    (channel : Channel (Watched Machine)) (room : packet.blocks.toNat * span ≤ Staging.sectors) :
    Action.Ends (tryTimes (Channel.lend (packet.blocks.toNat * span * sectorSize)
        (Firmware.blockTransfer .read number packet.encode)) cause tries) channel
      (fun _ after => ∃ refusals,
        Granted number span tries channel after { packet, refusals, granted := true })
      (fun refusal after => refusal = .final cause ∧ ∃ refusals,
        Denied number span tries channel after { packet, refusals, granted := false })
      (fun _ _ => False) := by
  induction tries generalizing channel with
  | zero =>
    exact ⟨rfl, [], ⟨rfl, rfl⟩, (List.append_nil _).symm, .refl number .read _⟩
  | succ tries ih =>
    have served := @Channel.lend_blocks_watched number span packet channel room
    refine Action.ends_caught_bind (served.mono ?_ ?_)
    · rintro _ after ⟨transcript, moved⟩
      exact ⟨[], ⟨rfl, Nat.succ_pos tries⟩, transcript, moved⟩
    · rintro status middle ⟨transcript, failed⟩
      refine (ih middle).mono ?_ ?_
      · rintro _ after ⟨refusals, granted⟩
        exact ⟨status :: refusals, granted.cons transcript failed⟩
      · rintro refusal after ⟨final, refusals, denied⟩
        exact ⟨final, status :: refusals, denied.cons transcript failed⟩

/-- An attempt at a run of whole blocks is one round. -/
theorem attemptOptical_ends {settings : Settings} (valid : settings.check = .ok ())
    {block blocks : Nat} (channel : Channel (Watched Machine))
    (few : blocks * settings.opticalSpan ≤ 32) (small : block < UInt64.size) :
    Action.Ends
      (attemptOptical settings number (block * settings.opticalSpan)
        (blocks * settings.opticalSpan)) channel
      (fun _ after => ∃ round : Round, round.For block blocks ∧
        Granted number settings.opticalSpan settings.opticalRetryCount channel after round)
      (fun refusal after => refusal = .final (.readFailed number.name) ∧
        ∃ round : Round, round.For block blocks ∧
          Denied number settings.opticalSpan settings.opticalRetryCount channel after round)
      (fun _ _ => False) := by
  obtain ⟨positive, -⟩ := opticalSpan_bounds valid
  have sectors : Staging.sectors = 128 := rfl
  have room : blocks * settings.opticalSpan ≤ Staging.sectors := by omega
  have less : blocks ≤ blocks * settings.opticalSpan := Nat.le_mul_of_pos_right blocks positive
  have reserved := Staging.checkRegion_of_le room
  -- Whole blocks come in, so no rounding adds one.
  have whole : (blocks * settings.opticalSpan + (settings.opticalSpan - 1)) / settings.opticalSpan =
      blocks := by
    rw [Nat.add_comm, Nat.add_mul_div_right _ _ positive, Nat.div_eq_of_lt (by omega), Nat.zero_add]
  have counted : (UInt16.ofNat blocks).toNat = blocks := toNat_blocks (by omega)
  have named : (UInt64.ofNat block).toNat = block := toNat_block small
  rw [attemptOptical_of_short valid number _ (by omega)]
  simp only [whole, Nat.mul_div_cancel _ positive]
  rw [packet, Action.ends_look_bind]
  apply reserve_bind_ends
  · intro cause refused
    rw [reserved] at refused
    cases refused
  · intro _
    let asked : DiskAddressPacket := {
      blocks := UInt16.ofNat blocks
      buffer := channel.staging.startPointer
      block := UInt64.ofNat block }
    have tried := @tryTimes_ends number settings.opticalSpan (.readFailed number.name) asked
      settings.opticalRetryCount channel (by rwa [counted])
    have same : asked.blocks.toNat = blocks := counted
    rw [same] at tried
    refine tried.mono ?_ ?_
    · rintro _ after ⟨refusals, granted⟩
      exact ⟨{ packet := asked, refusals, granted := true }, ⟨named, same⟩, granted⟩
    · rintro refusal after ⟨final, refusals, denied⟩
      exact ⟨final, { packet := asked, refusals, granted := false }, ⟨named, same⟩, denied⟩

theorem opticalSpan_whole {settings : Settings} (valid : settings.check = .ok ()) (wanted : Nat) :
    ∃ blocks, min (wanted * settings.opticalSpan) 32 = blocks * settings.opticalSpan ∧
      (1 ≤ wanted → 1 ≤ blocks) ∧ blocks ≤ wanted := by
  obtain ⟨-, -, shift⟩ := settings.check_ok valid
  have most : 32 = 2 ^ (5 - settings.opticalSectorShift) * settings.opticalSpan := by
    rw [Settings.opticalSpan, Nat.one_shiftLeft, ← Nat.pow_add, Nat.sub_add_cancel (by omega)]
  have positive : 1 ≤ 2 ^ (5 - settings.opticalSectorShift) := Nat.pow_pos (by decide)
  refine ⟨min wanted (2 ^ (5 - settings.opticalSectorShift)), ?_, by omega, Nat.min_le_left _ _⟩
  rw [← Nat.mul_min_mul_right, ← most]

end Transfer

/-- A transfer of whole blocks of the optical drive is one round, and leaves the record alone. -/
theorem transfer_optical {settings : Settings} {opticalDrive : Option DriveNumber}
    (valid : settings.check = .ok ()) {link : Link (Watched Machine)}
    (sound : link.record.Sound opticalDrive) (optical : link.record.optical = true)
    {block wanted : Nat} (asked : 1 ≤ wanted) (small : block < UInt64.size) :
    Action.Ends
      (transfer settings .read (block * settings.opticalSpan) (wanted * settings.opticalSpan)) link
      (fun moved after => after.record = link.record ∧ ∃ round : Round,
        moved = min (wanted * settings.opticalSpan) 32 ∧
        moved = round.blocks * settings.opticalSpan ∧ round.packet.block.toNat = block ∧
        Transfer.Granted link.record.drive settings.opticalSpan settings.opticalRetryCount
          link.channel after.channel round)
      (fun cause after => cause = .readFailed link.record.drive.name ∧
        after.record = link.record ∧ ∃ round : Round,
        (1 ≤ round.blocks ∧ round.blocks ≤ wanted ∧ round.blocks * settings.opticalSpan ≤ 32) ∧
        round.packet.block.toNat = block ∧
        Transfer.Denied link.record.drive settings.opticalSpan settings.opticalRetryCount
          link.channel after.channel round)
      (fun _ _ => False) := by
  obtain ⟨positive, -⟩ := Transfer.opticalSpan_bounds valid
  obtain ⟨blocks, length, pos, less⟩ := Transfer.opticalSpan_whole valid wanted
  have nonzero : ¬ wanted * settings.opticalSpan = 0 := by
    rw [Nat.mul_eq_zero]
    omega
  have readable : ¬ (link.record.optical = true ∧ Direction.read = .write) := by
    rintro ⟨-, never⟩
    cases never
  have top : (Rung.top link.record (block * settings.opticalSpan)
      (wanted * settings.opticalSpan)).length = blocks * settings.opticalSpan := by
    have cap := sound.opticalCap optical
    have mode : ¬ link.record.mode = .chs := by
      rw [(sound.opticalMode optical).1]
      nofun
    simp only [Rung.top, mode, ↓reduceIte, cap]
    exact length
  have few : blocks * settings.opticalSpan ≤ 32 := by omega
  rw [transfer, Action.ends_look_bind, if_neg nonzero, if_neg readable]
  apply Transfer.descend_round
  rw [Transfer.attempt, if_pos optical, top, sound.settle_optical optical]
  refine (Transfer.attemptOptical_ends valid link.channel few small).mono ?_ ?_
  · rintro _ channel ⟨round, meant, granted⟩
    exact ⟨rfl, round, length.symm, by rw [meant.blocks], meant.block, granted⟩
  · rintro refusal channel ⟨rfl, round, meant, denied⟩
    refine ⟨rfl, rfl, round, ?_, meant.block, denied⟩
    rw [meant.blocks]
    exact ⟨pos asked, less, few⟩

end FirmwareDisk
