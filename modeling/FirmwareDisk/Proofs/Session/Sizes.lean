import FirmwareDisk.Proofs.Geometry.Fixed
import FirmwareDisk.Proofs.Session.Mirroring
import FirmwareDisk.Proofs.Session.Operations
import FirmwareDisk.Proofs.Transfer.Calm

set_option autoImplicit false

namespace FirmwareDisk

variable {number : DriveNumber} {medium : Medium} {sector count : Nat}

/-- A record by which every sector of a hard disk is read. It may have come down to addresses, but
only if the disk has no sector without one. -/
structure Geometry.Covers (record : Geometry) (number : DriveNumber) (medium : Medium) : Prop where
  settled : (ofFixed number (BlockDevice.totalSectors medium)).Settled record
  addressed : record.mode = .chs → BlockDevice.totalSectors medium < 255 * 63

namespace Geometry.Covers

variable {record after : Geometry}

theorem describes (covers : record.Covers number medium) :
    record.Describes (Drive.fixed medium) := by
  obtain ⟨mode, cap, rfl⟩ := covers.settled
  exact ⟨nofun, rfl, rfl, Drive.fixed_shape⟩

theorem plain (covers : record.Covers number medium) : record.optical = false :=
  covers.settled.optical

theorem drive (covers : record.Covers number medium) : record.drive = number :=
  covers.settled.drive

theorem totalSectors (covers : record.Covers number medium) :
    record.totalSectors = max (BlockDevice.totalSectors medium) (255 * 63) := by
  obtain ⟨mode, cap, rfl⟩ := covers.settled
  rfl

/-- Whatever a record came down to, it covers a disk that is smaller than a cylinder. -/
theorem settle (covers : record.Covers number medium) (settled : record.Settled after)
    (small : BlockDevice.totalSectors medium < 255 * 63) : after.Covers number medium :=
  ⟨covers.settled.trans settled, fun _ => small⟩

end Geometry.Covers

/-- A transfer of sectors that the disk has succeeds. One that goes beyond the disk, but not beyond
its cylinder, may be refused; either way the disk is as readable as before. -/
theorem transfer_covered (settings : Settings) (link : Link Machine)
    (covers : link.record.Covers number medium) (sound : medium.Sound)
    (attached : link.channel.firmware.drive? number = some (Drive.fixed medium))
    (cap : 1 ≤ link.record.cap ∧ link.record.cap ≤ 127) (wanted : 0 < count)
    (inside : sector + count ≤ max (BlockDevice.totalSectors medium) (255 * 63)) :
    Action.Ends (transfer settings .read sector count) link
      (fun _ after => after.record.Covers number medium ∧
        after.channel.firmware.drive? number = some (Drive.fixed medium))
      (fun cause after => (cause = .readFailed number.name ∧
          BlockDevice.totalSectors medium < sector + count) ∧
        after.record.Covers number medium ∧
        after.channel.firmware.drive? number = some (Drive.fixed medium))
      (fun _ _ => False) := by
  have addresses := Drive.le_addressed_fixed medium
  have own := covers.drive
  have held : link.channel.firmware.drive? link.record.drive = some (Drive.fixed medium) := by
    rw [own]
    exact attached
  -- Sectors in the gap between the disk and its cylinder are addressed, but not there.
  by_cases fits : sector + count ≤ BlockDevice.totalSectors medium
  · have has : (Drive.fixed medium).Has link.record.mode sector count := by
      refine ⟨fits, ?_⟩
      intro byAddress
      have small := covers.addressed byAddress
      omega
    refine (transfer_reads settings link
      ⟨covers.plain, rfl, cap, held, fun _ => covers.describes⟩
      (Drive.fixed_steady sound) wanted has).mono ?_ (fun _ _ never => never.elim)
    intro moved after done
    obtain ⟨-, settled, reads⟩ := done
    have still := reads.attached
    rw [settled.drive, own] at still
    refine ⟨⟨covers.settled.trans settled, ?_⟩, still⟩
    rw [reads.mode_eq]
    exact covers.addressed
  · have small : BlockDevice.totalSectors medium < 255 * 63 := by omega
    have reaches : link.Reaches (Drive.fixed medium) := ⟨covers.plain, held, covers.describes⟩
    refine (transfer_read_calm settings link reaches rfl cap.2 wanted (by omega)).mono ?_ ?_
    · intro moved after done
      obtain ⟨settled, still⟩ := done
      rw [own] at still
      exact ⟨covers.settle settled small, still⟩
    · intro cause after refused
      obtain ⟨named, settled, still⟩ := refused
      rw [own] at named still
      exact ⟨⟨named, Nat.not_le.mp fits⟩, covers.settle settled small, still⟩

namespace Session

variable {session : Session Machine} {disk : DiskHandle}

/-- A session that has met a hard disk without faults, and reads every sector of it. -/
structure HasFixed (session : Session Machine) (number : DriveNumber) (medium : Medium) : Prop where
  sound : session.Sound
  attached : session.channel.firmware.drive? number = some (Drive.fixed medium)
  recorded : ∃ record, session.cache.get? number = some record ∧ record.Covers number medium

theorem HasFixed.describes (has : session.HasFixed number medium) :
    session.Describes number (Drive.fixed medium) := by
  obtain ⟨record, cached, covers⟩ := has.recorded
  have known : session.Knows number (Drive.fixed medium) :=
    ⟨has.attached, record, cached, covers.plain, covers.describes⟩
  exact known.describes

theorem HasFixed.transfer_ends (has : session.HasFixed number medium) (sound : medium.Sound)
    (wanted : 0 < count)
    (inside : sector + count ≤ max (BlockDevice.totalSectors medium) (255 * 63)) :
    Action.Ends (transfer number .read sector count) session
      (fun moved after => moved ≤ Staging.sectors ∧ after.HasFixed number medium)
      (fun cause after => (cause = .readFailed number.name ∧
        BlockDevice.totalSectors medium < sector + count) ∧ after.HasFixed number medium)
      (fun _ _ => False) := by
  obtain ⟨record, cached, covers⟩ := has.recorded
  have member := (GeometryCache.get?_some cached).1
  have cap := (has.sound.records record member).cap
  have moving : Action.Ends (transfer number .read sector count) session
      (fun _ after => (∃ record, after.cache.get? number = some record ∧
          record.Covers number medium) ∧
        after.channel.firmware.drive? number = some (Drive.fixed medium))
      (fun cause after => (cause = .readFailed number.name ∧
          BlockDevice.totalSectors medium < sector + count) ∧
        (∃ record, after.cache.get? number = some record ∧ record.Covers number medium) ∧
        after.channel.firmware.drive? number = some (Drive.fixed medium))
      (fun _ _ => False) := by
    refine transfer_of_cached cached ((transfer_covered session.settings
      { record, channel := session.channel } covers sound has.attached cap wanted inside).mono
      ?_ ?_)
    · intro moved link done
      refine ⟨⟨link.record, ?_, done.1⟩, done.2⟩
      rw [GeometryCache.get?_insert_own done.1.drive]
    · intro cause link refused
      refine ⟨refused.1, ⟨link.record, ?_, refused.2.1⟩, refused.2.2⟩
      rw [GeometryCache.get?_insert_own refused.2.1.drive]
  have limit : Staging.sectors = 128 := rfl
  refine (moving.and (transfer_safe number .read sector count has.sound)).mono ?_ ?_
  · intro moved after done
    obtain ⟨⟨recorded, attached⟩, safe, few⟩ := done
    exact ⟨by omega, safe, attached, recorded⟩
  · intro cause after refused
    obtain ⟨⟨named, recorded, attached⟩, safe, -⟩ := refused
    exact ⟨named, safe, attached, recorded⟩

theorem hasFixed_carries (sound : medium.Sound) {stop : Nat}
    (inside : stop ≤ max (BlockDevice.totalSectors medium) (255 * 63)) :
    Carries number .read stop
      (fun sector session => sector ≤ stop ∧ session.HasFixed number medium)
      (fun cause session => (cause = .readFailed number.name ∧
        BlockDevice.totalSectors medium < stop) ∧ session.HasFixed number medium)
      (fun _ _ => False) where
  transfer sector count session ready _ wanted fits := by
    have bounds := (ready.2.transfer_ends sound wanted (Nat.le_trans fits inside)).with_run
    refine bounds.mono ?_ ?_
    · intro moved after done
      obtain ⟨run, room, still⟩ := done
      have less := transfer_moved wanted run
      exact ⟨room, by omega, still⟩
    · intro cause after refused
      exact ⟨⟨refused.1.1, Nat.lt_of_lt_of_le refused.1.2 fits⟩, refused.2⟩
  overflow sector session ready far := by
    have size : BlockDevice.totalSectors medium < UInt64.size := sound.size
    have limit : UInt64.size = 0x10000000000000000 := rfl
    have before := ready.1
    omega
  staged sector session staging ready :=
    ⟨ready.1, ready.2.sound.channel _, ready.2.attached, ready.2.recorded⟩

/-- A read of sectors that the disk says it has. It succeeds only if the medium has them, and is
refused only if the medium does not. -/
theorem HasFixed.read_ends {lent : Lent (Session Machine)}
    (has : lent.state.HasFixed number medium) (sound : medium.Sound)
    (handle : driveBehind disk = .ok number)
    (size : disk.totalSectors = max (BlockDevice.totalSectors medium) (255 * 63))
    (whole : lent.buffer.length = count * sectorSize) (wanted : 0 < count)
    (fits : sector + count ≤ disk.totalSectors) :
    Action.Ends (read disk sector) lent
      (fun _ after => (sector + count ≤ BlockDevice.totalSectors medium ∧
          after.buffer = medium.flat.slice (sector * sectorSize) (count * sectorSize)) ∧
        after.state.HasFixed number medium)
      (fun cause after => (cause = .readFailed number.name ∧
          BlockDevice.totalSectors medium < sector + count) ∧
        (∃ held ≤ count, Filled (Drive.fixed medium) sector held lent.buffer after.buffer) ∧
        after.state.HasFixed number medium)
      (fun _ _ => False) := by
  obtain ⟨record, cached, covers⟩ := has.recorded
  have total : BlockDevice.totalSectors medium < UInt64.size := sound.size
  have limit : UInt64.size = 0x10000000000000000 := rfl
  have plain (met : Geometry) (after : Session Machine)
      (run : recordOf number lent.state = (.ok met, after)) : met.optical = false :=
    has.describes.record_plain has.sound run
  have carried := (hasFixed_carries sound (size ▸ fits)).read lent handle (recordOf_cached cached)
    covers.plain (by omega) whole (checkRequest_of_fits (by omega) fits)
    ⟨Nat.le_add_right sector count, has⟩
  refine (carried.and (has.describes.read_ends handle plain (by omega))).mono ?_ ?_
  · intro _ after done
    obtain ⟨⟨-, still⟩, same, length, filled, -⟩ := done
    have equal : count = same := Nat.eq_of_mul_eq_mul_right (by decide) (whole.symm.trans length)
    subst equal
    refine ⟨⟨?_, ?_⟩, still⟩
    · exact filled.fits.resolve_left (Nat.ne_of_gt wanted)
    · rw [filled.bytes, List.drop_of_length_le (Nat.le_of_eq whole), List.append_nil]
      rfl
  · intro cause after refused
    obtain ⟨⟨past, still⟩, held, less, filled, -⟩ := refused
    rw [whole] at less
    exact ⟨past, ⟨held, Nat.le_of_mul_le_mul_right less (by decide), filled⟩, still⟩

/-- Whatever a read of the disk comes to, the disk stays as readable as it was. -/
theorem HasFixed.read_keeps {lent : Lent (Session Machine)}
    (has : lent.state.HasFixed number medium) (sound : medium.Sound)
    (handle : driveBehind disk = .ok number)
    (size : disk.totalSectors = max (BlockDevice.totalSectors medium) (255 * 63))
    (fits : sector + lent.buffer.length / sectorSize ≤ disk.totalSectors) :
    (read disk sector lent).2.state.HasFixed number medium := by
  obtain ⟨record, cached, covers⟩ := has.recorded
  have total : BlockDevice.totalSectors medium < UInt64.size := sound.size
  have limit : UInt64.size = 0x10000000000000000 := rfl
  have kept : Action.Ends (read disk sector) lent
      (fun _ after => after.state.HasFixed number medium)
      (fun _ after => after.state.HasFixed number medium)
      (fun _ after => after.state.HasFixed number medium) := by
    apply read_of_units (fun _ _ => has)
    intro same count found counted _
    cases handle.symm.trans found
    have whole := sectorCount_ok counted
    rw [whole, Nat.mul_div_cancel _ (by decide)] at fits
    have units : Action.Ends (readUnits disk.name number 1 sector) lent
        (fun _ after => after.state.HasFixed number medium)
        (fun _ after => after.state.HasFixed number medium)
        (fun _ after => after.state.HasFixed number medium) :=
      (((hasFixed_carries sound (size ▸ fits)).readUnits disk.name lent
        ⟨Nat.le_add_right sector count, has⟩ (by omega) whole (Nat.le_refl _)).mono
        (fun _ _ done => done.2) (fun _ _ refused => refused.2)).unfaulted
    unfold Action.Ends
    rw [recordOf_cached cached]
    simp only [readUnit, covers.plain, Bool.false_eq_true, ↓reduceIte]
    exact units
  exact kept.left

/-- A hard disk without faults is met without fail, for the first time or again. -/
theorem recordOf_fixed (safe : session.Sound)
    (attached : session.channel.firmware.drive? number = some (Drive.fixed medium))
    (sound : medium.Sound) (wanted : 0 < BlockDevice.totalSectors medium)
    (fixed : number.isFixed = true) (other : session.opticalDrive ≠ some number)
    (unmarked : FbOverride.ofSector? (medium.flat.slice 0 sectorSize) = none)
    (clean : ∀ record, session.cache.get? number = some record → record.Covers number medium) :
    Action.Ends (recordOf number) session
      (fun record after => record.Covers number medium ∧ after.HasFixed number medium)
      (fun _ _ => False) (fun _ _ => False) := by
  have met : Action.Ends (recordOf number) session
      (fun record after => record.Covers number medium ∧
        after.channel.firmware.drive? number = some (Drive.fixed medium))
      (fun _ _ => False) (fun _ _ => False) := by
    apply recordOf_of_probe
    · intro record cached
      exact ⟨clean record cached, attached⟩
    · refine (Geometry.probe_fixed sound attached fixed other wanted unmarked).mono ?_
        (fun _ _ never => never)
      intro record channel found
      refine ⟨?_, found.2⟩
      rw [found.1]
      exact ⟨.refl _, nofun⟩
  refine ((met.and (recordOf_safe number safe)).and (recordOf_recorded number session)).mono ?_
    (fun _ _ never => never.1.1)
  intro record after done
  obtain ⟨⟨⟨covers, still⟩, safe, -⟩, cached, -⟩ := done
  exact ⟨covers, safe, still, record, cached, covers⟩

/-- A disk opens with the size that is in the record of its drive. -/
theorem openDisk_met {name : String} {record : Geometry} {opened : Session Machine}
    (named : driveNamed session.settings.bootDrive name = .ok number)
    (met : recordOf number session = (.ok record, opened)) :
    ∃ disk, openDisk name session = (.ok disk, opened) ∧ driveBehind disk = .ok number ∧
      disk.totalSectors = record.totalSectors := by
  refine ⟨{
    name
    backend := backendName
    id := number.toNat
    totalSectors := record.totalSectors
    hasPartitions := session.opticalDrive ≠ some number }, ?_, ?_, rfl⟩
  · have found : driveNamed (id session).settings.bootDrive name = .ok number := named
    rw [openDisk, Action.look_bind, Action.bind_of_ok (Action.check_of_ok found session),
      Action.bind_of_ok met]
    rfl
  · rw [driveBehind, if_pos number.toNat_lt, UInt8.ofNat_toNat]

/-- The session after some reads of a disk, however they ended. -/
def readAll (disk : DiskHandle) : List (Nat × Bytes) → Session Machine → Session Machine
  | [], session => session
  | (sector, buffer) :: rest, session =>
    readAll disk rest (read disk sector { buffer, state := session }).2.state

theorem HasFixed.readAll (has : session.HasFixed number medium) (sound : medium.Sound)
    (handle : driveBehind disk = .ok number)
    (size : disk.totalSectors = max (BlockDevice.totalSectors medium) (255 * 63))
    {requests : List (Nat × Bytes)}
    (inside : ∀ request ∈ requests,
      request.1 + request.2.length / sectorSize ≤ disk.totalSectors) :
    (readAll disk requests session).HasFixed number medium := by
  induction requests generalizing session with
  | nil => exact has
  | cons request rest ih =>
    have fits := inside request List.mem_cons_self
    exact ih (HasFixed.read_keeps has sound handle size fits)
      fun later member => inside later (List.mem_cons_of_mem request member)

/-- A single sector is read if the disk has it, and else nothing is. -/
theorem HasFixed.read_sector (has : session.HasFixed number medium) (sound : medium.Sound)
    (handle : driveBehind disk = .ok number)
    (size : disk.totalSectors = max (BlockDevice.totalSectors medium) (255 * 63))
    {buffer : Bytes} (whole : buffer.length = sectorSize) (below : sector < disk.totalSectors) :
    ∃ outcome after, read disk sector { buffer, state := session } = (outcome, after) ∧
      (sector < BlockDevice.totalSectors medium → outcome = .ok () ∧
        after.buffer = medium.flat.slice (sector * sectorSize) sectorSize) ∧
      (BlockDevice.totalSectors medium ≤ sector →
        outcome = .error (.readFailed number.name) ∧ after.buffer = buffer) := by
  have length : buffer.length = 1 * sectorSize := by rw [whole, Nat.one_mul]
  obtain ⟨_, after, run, ⟨fits, bytes⟩, -⟩ |
    ⟨cause, after, run, ⟨named, past⟩, ⟨held, one, filled⟩, -⟩ | ⟨_, _, _, never⟩ :=
    (@HasFixed.read_ends number medium sector 1 disk { buffer, state := session } has sound handle
      size length Nat.one_pos below).cases
  · rw [Nat.one_mul] at bytes
    exact ⟨_, after, run, fun _ => ⟨rfl, bytes⟩, fun past => by omega⟩
  · refine ⟨_, after, run, fun fits => by omega, fun _ => ⟨congrArg _ named, ?_⟩⟩
    have zero : held = 0 := by
      have fits : held = 0 ∨ sector + held ≤ BlockDevice.totalSectors medium := filled.fits
      omega
    rw [filled.bytes, zero, Nat.zero_mul]
    rfl
  · exact never.elim

/-- A hard disk without faults or an override, of at least one sector, opens with its own size or
that of a cylinder, whichever is greater. After any reads within that size, a sector is read if the
disk has it; if not, the read is refused and leaves the buffer as it was. -/
theorem openDisk_reads_image {settings : Settings} {firmware : Machine} {name : String}
    (reachable : Reachable settings firmware session)
    (named : driveNamed session.settings.bootDrive name = .ok number)
    (fixed : number.isFixed = true) (other : session.opticalDrive ≠ some number)
    (attached : session.channel.firmware.drive? number = some (Drive.fixed medium))
    (clean : ∀ record, session.cache.get? number = some record → record.Covers number medium)
    (sound : medium.Sound) (wanted : 0 < BlockDevice.totalSectors medium)
    (unmarked : FbOverride.ofSector? (medium.flat.slice 0 sectorSize) = none) :
    ∃ disk opened, openDisk name session = (.ok disk, opened) ∧
      disk.totalSectors = max (BlockDevice.totalSectors medium) (255 * 63) ∧
      ∀ requests : List (Nat × Bytes),
        (∀ request ∈ requests, request.1 + request.2.length / sectorSize ≤ disk.totalSectors) →
        ∀ (sector : Nat) (buffer : Bytes), buffer.length = sectorSize →
          sector < disk.totalSectors →
          ∃ outcome after,
            read disk sector { buffer, state := readAll disk requests opened } =
              (outcome, after) ∧
            (sector < BlockDevice.totalSectors medium → outcome = .ok () ∧
              after.buffer = medium.flat.slice (sector * sectorSize) sectorSize) ∧
            (BlockDevice.totalSectors medium ≤ sector →
              outcome = .error (.readFailed number.name) ∧ after.buffer = buffer) := by
  obtain ⟨record, opened, met, covers, has⟩ | ⟨_, _, _, never⟩ | ⟨_, _, _, never⟩ :=
    (recordOf_fixed reachable.sound attached sound wanted fixed other unmarked clean).cases
  · obtain ⟨disk, run, handle, total⟩ := openDisk_met named met
    have size := total.trans covers.totalSectors
    refine ⟨disk, opened, run, size, ?_⟩
    intro requests inside sector buffer whole below
    exact (has.readAll sound handle size inside).read_sector sound handle size whole below
  · exact never.elim
  · exact never.elim

def tinyImage : Medium where
  store := .memory { totalSectors := 1 }

/-- A session with the image in its first hard disk, when it has just begun. -/
def tinyStart : Session Machine where
  channel := {
    firmware := Machine.attach {} 0x80 (Drive.fixed tinyImage)
    staging := Staging.empty 0x6800 }
  settings := {}
  opticalDrive := none

/-- The tiny disk, opened. -/
def tinyDisk : DiskHandle where
  name := "hd0"
  backend := backendName
  id := 0x80
  totalSectors := 16065
  hasPartitions := true

theorem tinyImage_sound : tinyImage.Sound where
  spotless := rfl
  size := by decide
  length := nofun
  faultless := nofun

theorem tinyStart_attached :
    tinyStart.channel.firmware.drive? 0x80 = some (Drive.fixed tinyImage) := by
  rw [tinyStart, Machine.drive?_attach, if_pos rfl]

theorem tinyImage_unmarked :
    FbOverride.ofSector? (tinyImage.flat.slice 0 sectorSize) = none := by
  decide +kernel

/-- The only sector of the tiny disk is read even after a read beyond it was refused. -/
theorem openDisk_reads_image_tiny :
    ∃ disk opened after, openDisk "hd0" tinyStart = (.ok disk, opened) ∧
      disk.totalSectors = 16065 ∧
      read disk 0 {
        buffer := Bytes.zeros 512
        state := readAll disk [(0, Bytes.zeros 1024), (16064, Bytes.zeros 512)] opened } =
          (.ok (), after) ∧
      after.buffer = tinyImage.flat.slice 0 sectorSize := by
  have reachable : Reachable {} (Machine.attach {} 0x80 (Drive.fixed tinyImage)) tinyStart :=
    .start rfl
  obtain ⟨disk, opened, run, size, reads⟩ := openDisk_reads_image reachable
    (show driveNamed tinyStart.settings.bootDrive "hd0" = .ok 0x80 from rfl) (by decide) nofun
    tinyStart_attached nofun tinyImage_sound (by decide) tinyImage_unmarked
  have total : disk.totalSectors = 16065 := size
  have inside : ∀ request ∈ [(0, Bytes.zeros 1024), (16064, Bytes.zeros 512)],
      request.1 + request.2.length / sectorSize ≤ disk.totalSectors := by
    rw [total]
    decide +kernel
  obtain ⟨_, after, read, here, -⟩ :=
    reads _ inside 0 (Bytes.zeros 512) List.length_replicate (by omega)
  obtain ⟨rfl, bytes⟩ := here (by decide)
  exact ⟨disk, opened, after, run, total, read, bytes⟩

/-- The tiny disk opens with the sectors of a whole cylinder, and cannot read the second one. -/
theorem openDisk_oversells :
    tinyImage.Sound ∧ BlockDevice.totalSectors tinyImage = 1 ∧
      FbOverride.ofSector? (tinyImage.flat.slice 0 sectorSize) = none ∧
      tinyStart.channel.firmware.drive? 0x80 = some (Drive.fixed tinyImage) ∧
      (openDisk "hd0" tinyStart).1 = .ok tinyDisk ∧ 1 < tinyDisk.totalSectors ∧
      (read tinyDisk 1 { buffer := Bytes.zeros 512, state := (openDisk "hd0" tinyStart).2 }).1 =
        .error (.readFailed "hd0") :=
  ⟨tinyImage_sound, rfl, tinyImage_unmarked, tinyStart_attached, by decide +kernel, by decide,
    by decide +kernel⟩

end Session

end FirmwareDisk
