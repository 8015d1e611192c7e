import FirmwareDisk.Proofs.Geometry.Cache
import FirmwareDisk.Proofs.Machine.Order
import FirmwareDisk.Proofs.Session.Rounds
import FirmwareDisk.Proofs.Transfer.Descents

set_option autoImplicit false

namespace FirmwareDisk.Session

variable {number : DriveNumber}

/-- Meeting a drive leaves it with a record and writes to no medium. It faults as the probe does. -/
theorem recordOf_of_keeps (session : Session Machine) {faults : Fault → Prop}
    (keeps : Firmware.Keeps number (Machine.Idle number session.channel.firmware) faults) :
    Action.Ends (recordOf number) session
      (fun record after => after.cache.get? number = some record ∧
        Machine.Idle number session.channel.firmware after.channel.firmware)
      (fun _ after => Machine.Idle number session.channel.firmware after.channel.firmware)
      (fun reason _ => faults reason) := by
  apply recordOf_of_probe
  · intro record cached
    exact ⟨cached, .refl number session.channel.firmware⟩
  · refine (Geometry.probe_ends keeps session.opticalDrive
      (.refl number session.channel.firmware)).mono ?_ ?_
    · intro record channel found
      refine ⟨?_, found.2⟩
      rw [GeometryCache.get?_insert_own found.1.drive]
    · intro cause channel refused
      exact refused.2

theorem recordOf_ends (session : Session Machine)
    (shaped : session.channel.firmware.Shaped number) :
    Action.Ends (recordOf number) session
      (fun record after => after.cache.get? number = some record ∧
        Machine.Idle number session.channel.firmware after.channel.firmware)
      (fun _ after => Machine.Idle number session.channel.firmware after.channel.firmware)
      (fun _ _ => False) :=
  recordOf_of_keeps session (Machine.keeps session.channel.firmware shaped)

theorem recordOf_calm {drive : Drive} {session : Session Machine}
    (attached : session.channel.firmware.drive? number = some drive)
    (shape : Addressable drive.legacy.heads drive.legacy.sectors)
    (calm : drive.transientFailures = 0) :
    Action.Ends (recordOf number) session
      (fun _ after => after.channel.firmware.drive? number = some drive)
      (fun _ after => after.channel.firmware.drive? number = some drive) (fun _ _ => False) := by
  apply recordOf_of_probe
  · exact fun _ _ => attached
  · exact (Geometry.probe_ends (Machine.keeps_calm shape calm) session.opticalDrive attached).mono
      (fun _ _ found => found.2) (fun _ _ refused => refused.2)

/-- A session that has a record of a drive of its machine, which describes the drive. -/
structure Knows (session : Session Machine) (number : DriveNumber) (drive : Drive) : Prop where
  attached : session.channel.firmware.drive? number = some drive
  recorded : ∃ record, session.cache.get? number = some record ∧ record.optical = false ∧
    record.Describes drive

/-- A drive of the machine whose record, be it known or still to be probed, has the heads and
sectors by which the drive itself reads addresses. -/
structure Describes (session : Session Machine) (number : DriveNumber) (drive : Drive) : Prop where
  attached : session.channel.firmware.drive? number = some drive
  plain : drive.kind ≠ .optical
  shape : Addressable drive.legacy.heads drive.legacy.sectors
  record : ∀ record after, recordOf number session = (.ok record, after) →
    record.heads = drive.legacy.heads ∧ record.sectors = drive.legacy.sectors

/-- Once a drive was met, the session knows it, unless it takes it for the optical one. -/
theorem Describes.recordOf_ends {session : Session Machine} {drive : Drive}
    (describes : session.Describes number drive) :
    Action.Ends (recordOf number) session
      (fun record after => recordOf number session = (.ok record, after) ∧
        Machine.Idle number session.channel.firmware after.channel.firmware ∧
        (record.optical = false →
          ∃ held, after.Knows number held ∧ drive.Patched 0 [] held))
      (fun _ after => Machine.Idle number session.channel.firmware after.channel.firmware)
      (fun _ _ => False) := by
  have shaped : session.channel.firmware.Shaped number := by
    intro other found
    cases describes.attached.symm.trans found
    exact describes.shape
  have met := Session.recordOf_ends session shaped
  apply Action.Ends.intro
  · intro record after run
    obtain ⟨cached, idle⟩ := met.of_ok run
    refine ⟨run, idle, ?_⟩
    intro plain
    obtain ⟨heads, sectors⟩ := describes.record record after run
    obtain ⟨held, found, patched⟩ := (idle 0).there drive describes.attached
    have drawn : record.Describes drive := ⟨describes.plain, heads, sectors, describes.shape⟩
    exact ⟨held, ⟨found, record, cached, plain, patched.describes drawn⟩, patched⟩
  · intro cause after run
    exact met.of_error run
  · intro reason after run
    exact met.of_fault run

/-- A hard disk that does not have the extended services it promises, that moves seven sectors at
most, that has a bad sector, and whose next transfer fails. -/
def faultyDrive : Drive :=
  { Drive.fixed { store := .memory { totalSectors := 4096 }, badSectors := [2000] } with
    brokenExtensions := true
    ceiling := some 7
    transientFailures := 1 }

/-- A session that has met the faulty drive, but none of its faults yet. -/
def faultySession : Session Machine where
  channel := {
    firmware := Machine.attach {} 0x80 faultyDrive
    staging := Staging.empty 0x6800 }
  settings := {}
  cache := {
    records := [{
      drive := 0x80
      mode := .lba
      optical := false
      fbOverride := false
      sectors := 63
      heads := 255
      cylinders := 1
      cap := 127
      chsCap := 63
      totalSectors := 16065 }] }
  opticalDrive := none

/-- The faulty drive, opened. -/
def faultyDisk : DiskHandle where
  name := "hd0"
  backend := "biosdisk"
  id := 0x80
  totalSectors := 16065
  hasPartitions := true

/-- The faulty drive when its pending failure is over, with nines in the sector before the bad one. -/
def spottedDrive : Drive :=
  { faultyDrive with
    medium := { faultyDrive.medium with
      store := .memory {
        totalSectors := 4096
        stored := ({} : Std.TreeMap Nat Sector).insert 1999
          (Sector.ofBytes (List.replicate 512 9)) } }
    transientFailures := 0 }

def spottedSession : Session Machine :=
  { faultySession with channel :=
    { faultySession.channel with firmware := Machine.attach {} 0x80 spottedDrive } }

theorem spottedSession_describes : spottedSession.Describes 0x80 spottedDrive where
  attached := by
    rw [spottedSession, Machine.drive?_attach, if_pos rfl]
  plain := nofun
  shape := ⟨by decide, by decide, by decide, by decide⟩
  record record after run := by
    rw [recordOf_cached rfl] at run
    cases run
    exact ⟨rfl, rfl⟩

theorem Knows.written {before : Session Machine} (after : Session Machine) {drive : Drive}
    {start : Nat} {bytes : Bytes} {record settled : Geometry}
    (attached : before.channel.firmware.drive? number = some drive)
    (patched : Machine.Patched number start bytes before.channel.firmware after.channel.firmware)
    (plain : record.optical = false) (describes : record.Describes drive)
    (changed : record.Settled settled) (cached : after.cache.get? number = some settled) :
    ∃ held, after.Knows number held ∧ drive.Patched start bytes held := by
  obtain ⟨held, found, written⟩ := patched.there drive attached
  refine ⟨held, ⟨found, settled, cached, ?_, ?_⟩, written⟩
  · rw [changed.optical]
    exact plain
  · exact changed.describes (written.describes describes)

/-- A transfer with a known drive moves some of the sectors that it is asked for, or none. -/
theorem Knows.transfer_ends {session : Session Machine} {drive : Drive}
    (known : session.Knows number drive) (direction : Direction) {sector count : Nat}
    (small : sector < UInt64.size) (wanted : 0 < count) :
    Action.Ends (transfer number direction sector count) session
      (fun moved after => (0 < moved ∧ moved ≤ count) ∧
        Channel.Moved number drive direction sector moved session.channel after.channel ∧
        ∃ held, after.Knows number held ∧ drive.Patched (sector * sectorSize)
          (direction.sent (session.channel.staging.data.take (moved * sectorSize))) held)
      (fun _ after => Machine.Idle number session.channel.firmware after.channel.firmware)
      (fun _ _ => False) := by
  obtain ⟨record, cached, plain, describes⟩ := known.recorded
  obtain ⟨-, same⟩ := GeometryCache.get?_some cached
  subst same
  have looked : Action.Ends (recordOf record.drive) session
      (fun found after => found = record ∧ after = session)
      (fun _ after => Machine.Idle record.drive session.channel.firmware after.channel.firmware)
      (fun _ _ => False) := by
    unfold Action.Ends
    rw [recordOf_cached cached]
    exact ⟨rfl, rfl⟩
  refine looked.bind ?_
  intro found state unchanged
  obtain ⟨rfl, rfl⟩ := unchanged
  rw [Action.ends_look_bind, Action.ends_onPart]
  have reaches : Link.Reaches { record := found, channel := state.channel } drive :=
    ⟨plain, known.attached, describes⟩
  refine (FirmwareDisk.transfer_ends state.settings direction _ reaches small wanted).mono ?_ ?_
  · intro moved after done
    obtain ⟨bounds, settled, whole⟩ := done
    refine ⟨bounds, whole, ?_⟩
    exact Knows.written
      { state with channel := after.channel, cache := state.cache.insert after.record }
      known.attached whole.patched plain describes settled
      (by rw [GeometryCache.get?_insert_own settled.drive])
  · intro cause after done
    exact done.2.idle

end FirmwareDisk.Session
