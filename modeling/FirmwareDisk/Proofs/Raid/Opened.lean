import FirmwareDisk.Proofs.Raid.Mirrors
import FirmwareDisk.Proofs.Session.Mirroring
import FirmwareDisk.Proofs.Session.Operations

set_option autoImplicit false

namespace FirmwareDisk.Raid

open Session

/-- Detection on an opened disk, whatever state its drive and its record are in: it returns what
detection on the medium returns, or the refusal of a read. If the drive is read by linear number,
and has no fault but that it may move few sectors at once, it returns what detection on the medium
returns. -/
theorem detect_opened {settings : Settings} {firmware : Machine} {session : Session Machine}
    {disk : DiskHandle} {number : DriveNumber} {drive : Drive}
    (reachable : Reachable settings firmware session) (handle : driveBehind disk = .ok number)
    (describes : session.Describes number drive)
    (size : disk.totalSectors = BlockDevice.totalSectors drive.medium) :
    (∀ reason, (detect { backend := session, disk : OpenedDisk (Session Machine) }).1 ≠
      .fault reason) ∧
    ((detect { backend := session, disk : OpenedDisk (Session Machine) }).1 =
        (detect drive.medium).1 ∨
      ∃ cause, (detect { backend := session, disk : OpenedDisk (Session Machine) }).1 =
        .error (.disk cause)) ∧
    ∀ record after, recordOf number session = (.ok record, after) → record.mode = .lba →
      drive.Steady →
      (detect { backend := session, disk : OpenedDisk (Session Machine) }).1 =
        (detect drive.medium).1 := by
  have shows : Shows disk number drive.medium { backend := session, disk } :=
    ⟨rfl, reachable.sound, drive, describes, rfl⟩
  have followed := (detect_follows (shows_mirrors handle size) shows).cases
  refine ⟨?_, ?_, ?_⟩
  · intro reason fault
    obtain ⟨_, _, run, _⟩ | ⟨_, _, run, _⟩ | ⟨_, _, _, never⟩ := followed
    · rw [run] at fault
      cases fault
    · rw [run] at fault
      cases fault
    · exact never
  · obtain ⟨_, _, run, _, same⟩ | ⟨_, _, run, ⟨_, cause, rfl⟩ | same⟩ | ⟨_, _, _, never⟩ := followed
    · exact Or.inl (by rw [run, same])
    · exact Or.inr ⟨cause, by rw [run]⟩
    · exact Or.inl (by rw [run, same])
    · exact never.elim
  · intro record after met mode steady
    obtain ⟨_, _, run, _, same⟩ | ⟨_, _, run, ⟨never, _⟩ | same⟩ | ⟨_, _, _, never⟩ :=
      (detect_follows (showsLinear_mirrors steady handle size)
        ⟨shows, describes.attached, record, after, met, mode⟩).cases
    · rw [run, same]
    · exact never.elim
    · rw [run, same]
    · exact never.elim

/-- A hard disk of one cylinder that moves seven sectors at most, with a superblock at sector 8. -/
def limitedDrive : Drive :=
  { Drive.fixed { store := .memory {
      totalSectors := 16065
      stored := ({} : Std.TreeMap Nat Sector).insert 8 (Sector.ofBytes (markedHeader 8 7)) } } with
    ceiling := some 7 }

theorem limitedDrive_steady : limitedDrive.Steady where
  plain := nofun
  answers := rfl
  extended := rfl
  working := rfl
  calm := rfl
  positive := by
    rintro _ ⟨⟩
    decide
  sound := ⟨rfl, by decide, nofun, nofun⟩

/-- The record of the limited drive. -/
def limitedRecord : Geometry where
  drive := 0x80
  mode := .lba
  optical := false
  fbOverride := false
  sectors := 63
  heads := 255
  cylinders := 1
  cap := 127
  chsCap := 63
  totalSectors := 16065

/-- The limited drive, opened. -/
def limitedDisk : DiskHandle where
  name := "hd0"
  backend := backendName
  id := 0x80
  totalSectors := 16065
  hasPartitions := true

/-- A session with the limited drive, when it has just begun. -/
def limitedStart : Session Machine where
  channel := {
    firmware := Machine.attach {} 0x80 limitedDrive
    staging := Staging.empty 0x6800 }
  settings := {}
  opticalDrive := none

theorem detect_opened_limited :
    ∃ session : Session Machine, Reachable {} (Machine.attach {} 0x80 limitedDrive) session ∧
      (openDisk "hd0" session).1 = .ok limitedDisk ∧
      (detect { backend := session, disk := limitedDisk : OpenedDisk (Session Machine) }).1 = .ok {
        version := .v1, arrayNumber := 0, level := 0, layout := 0, members := 0, memberIndex := 0
        perMemberSize := 0, dataOffset := 0, chunkSize := 0, uuid := Bytes.zeros 16
        name := none } := by
  have begun : Reachable {} (Machine.attach {} 0x80 limitedDrive) limitedStart := .start rfl
  have resolved : ((Operation.resolve 0x80).run limitedStart).1 = .ok () := by decide +kernel
  have reached := begun.step (.resolve 0x80) (by rw [resolved]; nofun)
  have present : limitedStart.channel.firmware.drive? 0x80 = some limitedDrive := by
    rw [limitedStart, Machine.drive?_attach, if_pos rfl]
  have shape : Addressable limitedDrive.legacy.heads limitedDrive.legacy.sectors :=
    ⟨by decide, by decide, by decide, by decide⟩
  have cached : ((Operation.resolve 0x80).run limitedStart).2.cache.get? 0x80 =
      some limitedRecord := by decide +kernel
  have describes : Describes ((Operation.resolve 0x80).run limitedStart).2 0x80 limitedDrive := by
    refine ⟨resolve_calm present shape rfl, nofun, shape, ?_⟩
    intro record after met
    rw [recordOf_cached cached] at met
    cases met
    exact ⟨rfl, rfl⟩
  have handle : driveBehind limitedDisk = .ok 0x80 := rfl
  have size : limitedDisk.totalSectors = BlockDevice.totalSectors limitedDrive.medium := rfl
  have found := (detect_opened reached handle describes size).2.2 limitedRecord _
    (recordOf_cached cached) rfl limitedDrive_steady
  refine ⟨_, reached, by decide +kernel, ?_⟩
  rw [found]
  decide +kernel

end FirmwareDisk.Raid
