import FirmwareDisk.Proofs.Medium.Readable
import FirmwareDisk.Proofs.Transfer.Acceptance

set_option autoImplicit false

namespace FirmwareDisk

/-- A drive with extended services that work, and with no fault but that it may move few sectors at
once. -/
structure Drive.Steady (drive : Drive) : Prop where
  plain : drive.kind ≠ .optical
  answers : drive.unreachable = false
  extended : drive.extensions = true
  working : drive.brokenExtensions = false
  calm : drive.transientFailures = 0
  positive : ∀ most, drive.ceiling = some most → 1 ≤ most
  sound : drive.medium.Sound

namespace Drive.Steady

variable {drive : Drive} {sector : Nat} {buffer : Bytes}

/-- A steady drive turns down nothing but transfers of more than one sector. -/
theorem accept_cases (steady : drive.Steady) (count : Nat) :
    accept count drive = (.ok (), drive) ∨
      1 < count ∧ ∃ status, accept count drive = (.error status, drive) := by
  have positive := steady.positive
  unfold accept
  rw [steady.calm]
  cases ceiling : drive.ceiling with
  | none => exact Or.inl rfl
  | some most =>
    have one := positive most ceiling
    by_cases long : most < count
    · refine Or.inr ⟨by omega, .transferTooLong, ?_⟩
      simp only [Option.any_some, long, decide_true, ↓reduceIte]
    · refine Or.inl ?_
      simp only [Option.any_some, long, decide_false, Bool.false_eq_true, ↓reduceIte]

theorem move_ends {count : Nat} (steady : drive.Steady) (positive : 0 < count)
    (whole : buffer.length = count * sectorSize)
    (fits : sector + count ≤ BlockDevice.totalSectors drive.medium) :
    Action.Ends (move .read sector) { buffer, state := drive }
      (fun _ after => after.state = drive) (fun _ _ => False) (fun _ _ => False) := by
  have read := (steady.sound.readable positive fits).read whole
  apply Action.Ends.mapError
  unfold Action.Ends
  simp only [read]

/-- The extended service of a steady drive, asked for sectors that the drive has. -/
theorem blockTransfer_ends {packet : DiskAddressPacket} (steady : drive.Steady)
    (positive : 0 < packet.blocks.toNat)
    (whole : buffer.length = packet.blocks.toNat * sectorSize)
    (fits : packet.block.toNat + packet.blocks.toNat ≤ BlockDevice.totalSectors drive.medium) :
    Action.Ends (blockTransfer .read packet) { buffer, state := drive }
      (fun _ after => after.state = drive)
      (fun _ after => after.state = drive ∧ 1 < packet.blocks.toNat) (fun _ _ => False) := by
  obtain accepted | ⟨long, status, refused⟩ := steady.accept_cases packet.blocks.toNat
  · apply Action.Ends.of_run (blockTransfer_accepted steady.plain steady.extended steady.working
      accepted positive whole)
    exact (steady.move_ends positive whole fits).mono (fun _ _ same => same)
      (fun _ _ never => never.elim)
  · rw [Action.Ends, blockTransfer_refused steady.extended steady.working refused]
    exact ⟨rfl, long⟩

/-- The legacy service of a steady drive, asked for sectors that the drive has. -/
theorem chsTransfer_ends {address : Chs} {count : UInt8} (steady : drive.Steady)
    (shape : Addressable drive.legacy.heads drive.legacy.sectors)
    (serves : drive.Serves address count.toNat buffer.length)
    (named : address.linear? drive.legacy.heads drive.legacy.sectors = some sector)
    (fits : sector + count.toNat ≤ BlockDevice.totalSectors drive.medium) :
    Action.Ends (chsTransfer .read address count) { buffer, state := drive }
      (fun _ after => after.state = drive)
      (fun _ after => after.state = drive ∧ 1 < count.toNat) (fun _ _ => False) := by
  have nonzero : count.toNat ≠ 0 := serves.1
  have whole : buffer.length = count.toNat * sectorSize := serves.2.2.2.2.2
  obtain accepted | ⟨long, status, refused⟩ := steady.accept_cases count.toNat
  · apply Action.Ends.of_run (chsTransfer_accepted steady.plain accepted shape serves named)
    exact (steady.move_ends (Nat.pos_of_ne_zero nonzero) whole fits).mono (fun _ _ same => same)
      (fun _ _ never => never.elim)
  · rw [Action.Ends, chsTransfer_refused steady.plain refused]
    exact ⟨rfl, long⟩

end Drive.Steady

namespace Machine

variable {number : DriveNumber} {drive : Drive}

/-- What the service of a steady drive comes to, a machine with the drive comes to. -/
theorem served_steady {service : Action (Lent Drive) Status Unit} {call : Call} {count : Nat}
    (lent : Lent Machine) (steady : drive.Steady)
    (attached : lent.state.drive? number = some drive)
    (served : Action.Ends service { buffer := lent.buffer, state := drive }
      (fun _ after => after.state = drive) (fun _ after => after.state = drive ∧ 1 < count)
      (fun _ _ => False)) :
    Action.Ends (do logCall call; onDrive number service) lent
      (fun _ after => after.state.drive? number = some drive)
      (fun _ after => after.state.drive? number = some drive ∧ 1 < count) (fun _ _ => False) := by
  refine (@answered_ends number drive service call (· = drive)
    (fun held => held = drive ∧ 1 < count) lent attached steady.answers served).mono ?_ ?_
  · rintro _ after ⟨_, found, rfl⟩
    exact found
  · rintro _ after ⟨_, found, rfl, long⟩
    exact ⟨found, long⟩

theorem blockTransfer_steady (packet : DiskAddressPacket) (lent : Lent Machine)
    (steady : drive.Steady) (attached : lent.state.drive? number = some drive)
    (positive : 0 < packet.blocks.toNat)
    (whole : lent.buffer.length = packet.blocks.toNat * sectorSize)
    (fits : packet.block.toNat + packet.blocks.toNat ≤ BlockDevice.totalSectors drive.medium) :
    Action.Ends (Firmware.blockTransfer .read number packet.encode) lent
      (fun _ after => after.state.drive? number = some drive)
      (fun _ after => after.state.drive? number = some drive ∧ 1 < packet.blocks.toNat)
      (fun _ _ => False) := by
  simp only [Firmware.blockTransfer, DiskAddressPacket.decode?_encode]
  exact served_steady lent steady attached (steady.blockTransfer_ends positive whole fits)

theorem chsTransfer_steady {address : Chs} {count : UInt8} {sector : Nat} (lent : Lent Machine)
    (steady : drive.Steady) (attached : lent.state.drive? number = some drive)
    (shape : Addressable drive.legacy.heads drive.legacy.sectors)
    (serves : drive.Serves address count.toNat lent.buffer.length)
    (named : address.linear? drive.legacy.heads drive.legacy.sectors = some sector)
    (fits : sector + count.toNat ≤ BlockDevice.totalSectors drive.medium) :
    Action.Ends (Firmware.chsTransfer .read number address count) lent
      (fun _ after => after.state.drive? number = some drive)
      (fun _ after => after.state.drive? number = some drive ∧ 1 < count.toNat)
      (fun _ _ => False) :=
  served_steady lent steady attached (steady.chsTransfer_ends shape serves named fits)

end Machine

/-- A link to a drive that is read in one mode. By address, its record has to name the sectors as
the drive does. -/
structure Link.Reads (link : Link Machine) (mode : Addressing) (drive : Drive) : Prop where
  plain : link.record.optical = false
  mode_eq : link.record.mode = mode
  cap : 1 ≤ link.record.cap ∧ link.record.cap ≤ 127
  attached : link.channel.firmware.drive? link.record.drive = some drive
  describes : mode = .chs → link.record.Describes drive

/-- A link to a drive that is read by linear number. -/
structure Link.Linear (link : Link Machine) (drive : Drive) : Prop where
  plain : link.record.optical = false
  mode : link.record.mode = .lba
  cap : 1 ≤ link.record.cap ∧ link.record.cap ≤ 127
  attached : link.channel.firmware.drive? link.record.drive = some drive

namespace Transfer

variable {drive : Drive} {mode : Addressing} {sector length : Nat}

/-- An attempt to read sectors of a steady drive fails only if a shorter one is left to try. -/
theorem attempt_steady (settings : Settings) {link : Link Machine} (reads : link.Reads mode drive)
    (steady : drive.Steady) (positive : 0 < length) (few : length ≤ 127)
    (track : mode = .chs → length ≤ link.record.restOfTrack sector)
    (has : drive.Has mode sector length) :
    Action.Ends (attempt settings link.record .read sector length) link.channel
      (fun _ after => after.firmware.drive? link.record.drive = some drive)
      (fun refusal after => ((∃ status, refusal = .retryable status) ∧ 1 < length) ∧
        after.firmware.drive? link.record.drive = some drive)
      (fun _ _ => False) := by
  have room : length ≤ Staging.sectors := Nat.le_succ_of_le few
  have lent := link.channel.staging.length_take_data (Staging.mul_le_byteSize room)
  have size : BlockDevice.totalSectors drive.medium < UInt64.size := steady.sound.size
  have fits := has.fits
  rw [attempt_of_plain settings reads.plain]
  apply attemptSectors_of_service
  -- Neither the staging buffer nor a missing address is what an attempt fails for.
  · intro cause refused
    rw [Staging.checkRegion_of_le room] at refused
    cases refused
  · intro byAddress cause refused
    have same := reads.mode_eq.symm.trans byAddress
    obtain ⟨address, found, -⟩ :=
      (reads.describes same).serves positive few (track same) (has.addressed same)
    rw [found] at refused
    cases refused
  · intro _ _
    have served := Machine.blockTransfer_steady
      { blocks := UInt16.ofNat length
        buffer := link.channel.staging.startPointer
        block := UInt64.ofNat sector }
      (link.channel.lent (length * sectorSize))
      steady reads.attached (by rw [toNat_blocks room]; exact positive)
      (by rw [toNat_blocks room]; exact lent)
      (by rw [toNat_blocks room, toNat_block (by omega)]; exact fits)
    rw [toNat_blocks room] at served
    exact served.mono (fun _ _ found => found)
      (fun status _ refused => ⟨⟨⟨status, rfl⟩, refused.2⟩, refused.1⟩)
  · intro _ byAddress address found
    have same := reads.mode_eq.symm.trans byAddress
    have describes := reads.describes same
    obtain ⟨_, again, named, serves⟩ :=
      describes.serves positive few (track same) (has.addressed same)
    cases found.symm.trans again
    have served := Machine.chsTransfer_steady
      (link.channel.lent (length * sectorSize))
      steady reads.attached describes.shape (by rw [lent]; exact serves) named
      (by rw [toNat_count room]; exact fits)
    rw [toNat_count room] at served
    exact served.mono (fun _ _ still => still)
      (fun status _ refused => ⟨⟨⟨status, rfl⟩, refused.2⟩, refused.1⟩)

end Transfer

/-- A transfer that reads sectors of a steady drive succeeds in the mode in which it began, and the
next one is as good. -/
theorem transfer_reads {drive : Drive} {mode : Addressing} (settings : Settings)
    {sector count : Nat} (link : Link Machine) (reads : link.Reads mode drive)
    (steady : drive.Steady) (wanted : 0 < count) (has : drive.Has mode sector count) :
    Action.Ends (transfer settings .read sector count) link
      (fun moved after => moved ≤ 127 ∧ link.record.Settled after.record ∧ after.Reads mode drive)
      (fun _ _ => False) (fun _ _ => False) := by
  apply Action.Ends.of_run (transfer_eq_descend settings .read sector link reads.plain wanted)
  have cap := reads.cap
  have few := Rung.top_few cap.2 sector count
  have highest := @Rung.top_length link.record sector count wanted
  obtain ⟨positive, -, track⟩ :=
    @Rung.ladder_bounds link.record sector count _ wanted List.mem_cons_self
  have top : (Rung.top link.record sector count).cap = max 1 link.record.cap := rfl
  -- Every rung but the last is in the mode of the record, and the last one is never needed.
  refine Transfer.descend_of_ready
    (fun rung below lower => below = rung.below lower.record ∧
      (rung.mode = mode ∧ 1 ≤ rung.cap ∧ rung.cap ≤ 127) ∧
      (1 ≤ rung.length ∧ rung.length ≤ 127 ∧ rung.length ≤ count ∧
        (mode = .chs → rung.length ≤ link.record.restOfTrack sector)) ∧
      link.record.Settled lower.record ∧ lower.Reads mode drive) ?_
    ⟨rfl, ⟨reads.mode_eq, by omega⟩,
      ⟨positive, few, highest.2, fun byAddress => track (reads.mode_eq.trans byAddress)⟩,
      .refl link.record, reads⟩
  rintro rung below lower ⟨rungs, ⟨same, capped⟩, ⟨positive, few, part, track⟩, settled, still⟩
  have rest : lower.record.restOfTrack sector = link.record.restOfTrack sector := by
    obtain ⟨_, _, drawn⟩ := settled
    rw [drawn]
    rfl
  have kept (next : Rung) (byAddress : mode = .chs) :
      (next.settle lower.record).Describes drive :=
    (Geometry.Settled.settle next lower.record).describes (still.describes byAddress)
  refine (Transfer.attempt_steady settings still steady positive few (by rwa [rest])
    (has.shorten part)).mono ?_ ?_
  · intro _ channel attached
    exact ⟨few, settled.trans (.settle rung lower.record), still.plain, same, capped, attached,
      kept rung⟩
  · rintro _ channel ⟨⟨⟨status, rfl⟩, long⟩, attached⟩
    obtain ⟨next, lead, nextMode, nextCap, nextLength, -⟩ := Rung.below_of_long long lower.record
    have less := (Rung.lower_of_below positive (lead ▸ List.mem_cons_self)).1
    have nextCapped : 1 ≤ next.cap ∧ next.cap ≤ 127 := by omega
    rw [rungs, lead]
    refine ⟨rfl, ⟨nextMode.trans same, nextCapped⟩, ⟨nextLength.1, by omega, by omega, ?_⟩,
      settled.trans (.settle next lower.record), still.plain, nextMode.trans same, nextCapped,
      attached, kept next⟩
    intro byAddress
    exact Nat.le_trans less (track byAddress)

/-- A transfer that reads sectors of a steady drive succeeds, and the next one is as good. -/
theorem transfer_steady {drive : Drive} (settings : Settings) {sector count : Nat}
    (link : Link Machine) (linear : link.Linear drive) (steady : drive.Steady) (wanted : 0 < count)
    (fits : sector + count ≤ BlockDevice.totalSectors drive.medium) :
    Action.Ends (transfer settings .read sector count) link
      (fun moved after => moved ≤ 127 ∧ after.record.drive = link.record.drive ∧
        after.Linear drive)
      (fun _ _ => False) (fun _ _ => False) := by
  have reads : link.Reads .lba drive :=
    ⟨linear.plain, linear.mode, linear.cap, linear.attached, nofun⟩
  refine (transfer_reads settings link reads steady wanted ⟨fits, nofun⟩).mono ?_
    (fun _ _ never => never)
  rintro moved after ⟨few, settled, still⟩
  exact ⟨few, settled.drive, still.plain, still.mode_eq, still.cap, still.attached⟩

end FirmwareDisk
