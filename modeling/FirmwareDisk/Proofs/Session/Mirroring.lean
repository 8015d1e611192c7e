import FirmwareDisk.Backend.Opened
import FirmwareDisk.Proofs.BlockDevice
import FirmwareDisk.Proofs.Session.Carrying
import FirmwareDisk.Proofs.Session.Reads
import FirmwareDisk.Proofs.Session.Soundness
import FirmwareDisk.Proofs.Transfer.Reading
import FirmwareDisk.Proofs.Transfer.Steady

set_option autoImplicit false

namespace FirmwareDisk

/-- A read of whole sectors of an opened disk is a read of its backend. -/
theorem OpenedDisk.read_ends {β : Type} [Backend β] {sector count : Nat}
    {lent : Lent (OpenedDisk β)} {returns : Unit → Lent (OpenedDisk β) → Prop}
    {refuses : DiskError → Lent (OpenedDisk β) → Prop} {faults : Fault → Lent (OpenedDisk β) → Prop}
    (whole : lent.buffer.length = count * sectorSize)
    (served : Action.Ends (NamedDisks.read lent.state.disk sector)
      { buffer := lent.buffer, state := lent.state.backend }
      (fun value after => returns value
        { buffer := after.buffer, state := { lent.state with backend := after.state } })
      (fun cause after => refuses cause
        { buffer := after.buffer, state := { lent.state with backend := after.state } })
      (fun reason after => faults reason
        { buffer := after.buffer, state := { lent.state with backend := after.state } })) :
    Action.Ends (BlockDevice.read sector) lent returns refuses faults := by
  simp only [BlockDevice.read]
  rw [Action.ends_look_bind, Action.ends_look_bind, sectorCount_of_mul whole]
  exact served

namespace Session

variable {number : DriveNumber} {drive : Drive} {session : Session Machine} {disk : DiskHandle}
  {sector count : Nat}

theorem Knows.describes (known : session.Knows number drive) :
    session.Describes number drive := by
  obtain ⟨record, cached, -, describes⟩ := known.recorded
  refine ⟨known.attached, describes.plain, describes.shape, ?_⟩
  intro met after run
  rw [recordOf_cached cached] at run
  cases run
  exact ⟨describes.heads, describes.sectors⟩

theorem Describes.record_plain (describes : session.Describes number drive)
    (sound : session.Sound) {record : Geometry} {after : Session Machine}
    (met : recordOf number session = (.ok record, after)) : record.optical = false := by
  have proper := ((recordOf_safe number sound).of_ok met).2.2
  have heads := (describes.record record after met).1
  have some_heads := describes.shape.heads_pos
  cases optical : record.optical with
  | false => rfl
  | true =>
    have notLba := (proper.opticalMode optical).2
    omega

theorem checkRequest_of_fits (small : disk.totalSectors < UInt64.size)
    (fits : sector + count ≤ disk.totalSectors) : checkRequest disk sector count = .ok () := by
  have inside : ¬ (UInt64.size ≤ sector + count ∨ disk.totalSectors < sector + count) := by omega
  unfold checkRequest
  rw [if_neg inside, ite_self]

section Readable

/-- The sectors that a transfer has read, the medium gives all at once. -/
theorem Knows.transfer_readable (known : session.Knows number drive) (small : sector < UInt64.size)
    (wanted : 0 < count) :
    Action.Ends (transfer number .read sector count) session
      (fun moved _ => drive.medium.Readable sector moved) (fun _ _ => True) (fun _ _ => True) := by
  obtain ⟨record, cached, plain, describes⟩ := known.recorded
  obtain ⟨-, rfl⟩ := GeometryCache.get?_some cached
  exact transfer_of_cached cached (FirmwareDisk.transfer_readable session.settings _
    ⟨plain, known.attached, describes⟩ small wanted)

/-- A read from a medium that has come to a sector, and all of which the medium gives at once. -/
structure Past (medium : Medium) (number : DriveNumber) (start sector : Nat)
    (session : Session Machine) : Prop where
  known : ∃ drive, session.Knows number drive ∧ drive.medium = medium
  begun : start ≤ sector
  readable : start < sector → medium.Readable start (sector - start)

/-- One more transfer, and what was read is still what the medium gives at once. -/
theorem Past.moved {medium : Medium} {start moved : Nat} {after : Session Machine}
    (past : Past medium number start sector session)
    (known : ∃ drive, after.Knows number drive ∧ drive.medium = medium)
    (readable : medium.Readable sector moved) :
    Past medium number start (sector + moved) after where
  known := known
  begun := Nat.le_add_right_of_le past.begun
  readable _ := by
    have begun := past.begun
    by_cases first : start = sector
    · subst first
      rwa [Nat.add_sub_cancel_left]
    · have front := past.readable (by omega)
      have next : start + (sector - start) = sector := by omega
      rw [Nat.sub_add_comm begun]
      exact front.append (by rwa [next])

theorem past_carries (medium : Medium) (number : DriveNumber) {start : Nat}
    (small : start < UInt64.size) (stop : Nat) :
    Carries number .read stop (Past medium number start) (fun _ _ => True) (fun _ _ => False) where
  transfer sector count session past near wanted _ := by
    obtain ⟨drive, known, rfl⟩ := past.known
    refine ((known.transfer_ends .read near wanted).and (known.transfer_readable near wanted)).mono
      ?_ (fun _ _ _ => trivial)
    rintro moved after ⟨⟨-, whole, held, knows, patched⟩, readable⟩
    exact ⟨whole.room, past.moved ⟨held, knows, patched.untouched rfl⟩ readable⟩
  overflow sector session past far := by
    have begun := past.begun
    have below := (past.readable (by omega)).below
    omega
  staged sector session staging past := by
    obtain ⟨drive, known, same⟩ := past.known
    exact ⟨⟨drive, ⟨known.attached, known.recorded⟩, same⟩, past.begun, past.readable⟩

/-- If a read of a described drive succeeds, its medium gives the same sectors at once. -/
theorem Describes.read_past {lent : Lent (Session Machine)}
    (describes : lent.state.Describes number drive) (sound : lent.state.Sound)
    (handle : driveBehind disk = .ok number) (small : sector < UInt64.size)
    (whole : lent.buffer.length = count * sectorSize) :
    Action.Ends (read disk sector) lent
      (fun _ after => Past drive.medium number sector (sector + count) after.state)
      (fun _ _ => True) (fun _ _ => False) := by
  apply read_of_units (fun _ _ => trivial)
  intro other counted found _ _
  cases handle.symm.trans found
  refine describes.recordOf_ends.mono ?_ (fun _ _ _ => trivial)
  rintro record after ⟨met, -, known⟩
  have plain := describes.record_plain sound met
  obtain ⟨held, knows, patched⟩ := known plain
  have start : Past drive.medium number sector sector after :=
    ⟨⟨held, knows, patched.untouched rfl⟩, Nat.le_refl sector, fun less => by omega⟩
  rw [readUnit, plain]
  exact (past_carries drive.medium number small (sector + count)).readUnits disk.name
    { lent with state := after } start small whole (Nat.le_refl _)

end Readable

section Steady

/-- A session that reads a drive of its machine by linear number. -/
structure Linear (session : Session Machine) (number : DriveNumber) (drive : Drive) : Prop where
  attached : session.channel.firmware.drive? number = some drive
  recorded : ∃ record, session.cache.get? number = some record ∧ record.optical = false ∧
    record.mode = .lba ∧ 1 ≤ record.cap ∧ record.cap ≤ 127

theorem Describes.linear {record : Geometry} {after : Session Machine}
    (describes : session.Describes number drive) (sound : session.Sound) (steady : drive.Steady)
    (met : recordOf number session = (.ok record, after)) (mode : record.mode = .lba) :
    after.Linear number drive := by
  have recorded := ((recordOf_recorded number session).of_ok met).1
  have proper := ((recordOf_safe number sound).of_ok met).2.2
  exact ⟨(recordOf_calm describes.attached describes.shape steady.calm).of_ok met,
    record, recorded, describes.record_plain sound met, mode, proper.cap⟩

theorem linear_carries (steady : drive.Steady) {stop : Nat}
    (fits : stop ≤ BlockDevice.totalSectors drive.medium) :
    Carries number .read stop (fun sector session => sector ≤ stop ∧ session.Linear number drive)
      (fun _ _ => False) (fun _ _ => False) where
  transfer sector count session ready _ wanted inside := by
    obtain ⟨-, attached, record, cached, plain, mode, cap⟩ := ready
    obtain ⟨-, rfl⟩ := GeometryCache.get?_some cached
    have moving := transfer_steady session.settings { record, channel := session.channel }
      ⟨plain, mode, cap, attached⟩ steady wanted (Nat.le_trans inside fits)
    have moved : Action.Ends (Session.transfer record.drive .read sector count) session
        (fun moved after => moved ≤ 127 ∧ after.Linear record.drive drive)
        (fun _ _ => False) (fun _ _ => False) := by
      refine transfer_of_cached cached (moving.mono ?_ (fun _ _ never => never))
      rintro moved link ⟨few, same, linear⟩
      refine ⟨few, same ▸ linear.attached, link.record, ?_, linear.plain, linear.mode, linear.cap⟩
      rw [GeometryCache.get?_insert_own same]
    refine moved.with_run.mono ?_ (fun _ _ never => never)
    rintro moved after ⟨run, few, linear⟩
    have bounds := transfer_moved wanted run
    have room : Staging.sectors = 128 := rfl
    exact ⟨by omega, by omega, linear⟩
  overflow sector session ready far := by
    have size : BlockDevice.totalSectors drive.medium < UInt64.size := steady.sound.size
    have inside := ready.1
    omega
  staged sector session staging ready := ⟨ready.1, ready.2.attached, ready.2.recorded⟩

/-- A read of sectors that a steady drive has succeeds. -/
theorem Describes.read_steady {lent : Lent (Session Machine)} {record : Geometry}
    {after : Session Machine} (describes : lent.state.Describes number drive)
    (sound : lent.state.Sound) (steady : drive.Steady)
    (met : recordOf number lent.state = (.ok record, after)) (mode : record.mode = .lba)
    (handle : driveBehind disk = .ok number)
    (size : disk.totalSectors = BlockDevice.totalSectors drive.medium)
    (whole : lent.buffer.length = count * sectorSize)
    (fits : sector + count ≤ BlockDevice.totalSectors drive.medium) :
    Action.Ends (read disk sector) lent (fun _ after => after.state.Linear number drive)
      (fun _ _ => False) (fun _ _ => False) := by
  have total : BlockDevice.totalSectors drive.medium < UInt64.size := steady.sound.size
  have linear := describes.linear sound steady met mode
  exact ((linear_carries steady fits).read lent handle met (describes.record_plain sound met)
    (by omega) whole (checkRequest_of_fits (by omega) (by omega))
    ⟨Nat.le_add_right _ _, linear⟩).mono (fun _ _ done => done.2) (fun _ _ never => never)

end Steady

/-- An opened disk that shows what is in a drive of the machine. -/
structure Shows (disk : DiskHandle) (number : DriveNumber) (medium : Medium)
    (opened : OpenedDisk (Session Machine)) : Prop where
  disk_eq : opened.disk = disk
  sound : opened.backend.Sound
  described : ∃ drive, opened.backend.Describes number drive ∧ drive.medium = medium

/-- An opened disk mirrors the medium of its drive, though it may refuse to be read. -/
theorem shows_mirrors {medium : Medium} (handle : driveBehind disk = .ok number)
    (size : disk.totalSectors = BlockDevice.totalSectors medium) :
    BlockDevice.Mirrors (Shows disk number medium) True medium where
  size_eq := by
    rintro opened shows
    rw [← size, ← shows.disk_eq]
    rfl
  read_ends := by
    rintro sector count ⟨session, _⟩ ⟨rfl, sound, drive, describes, rfl⟩ small wanted _
    have whole : (Bytes.zeros (count * sectorSize)).length = count * sectorSize :=
      List.length_replicate
    have plain (record : Geometry) (after : Session Machine)
        (met : recordOf number session = (.ok record, after)) : record.optical = false :=
      describes.record_plain sound met
    let lent : Lent (Session Machine) :=
      { buffer := Bytes.zeros (count * sectorSize), state := session }
    apply OpenedDisk.read_ends whole
    refine (((@Describes.read_ends number drive _ sector lent handle describes plain small).and
      (@Describes.read_past number drive _ sector count lent describes sound handle small
        whole)).and (read_safe _ sector lent sound)).mono ?_ (fun _ _ _ => trivial)
    rintro _ after ⟨⟨⟨same, length, filled, -⟩, past⟩, safe, -⟩
    obtain rfl : count = same := Nat.eq_of_mul_eq_mul_right (by decide) (whole.symm.trans length)
    obtain ⟨held, known, medium⟩ := past.known
    -- A disk may only refuse; what it does return, one read of the medium would have.
    have readable := past.readable (by omega)
    rw [Nat.add_sub_cancel_left] at readable
    refine ⟨⟨rfl, safe, held, known.describes, medium⟩, ?_⟩
    rw [readable.read whole, filled.bytes, List.drop_of_length_le (Nat.le_of_eq whole),
      List.append_nil]

/-- An opened disk that shows a drive, and reads it by linear number. -/
structure ShowsLinear (disk : DiskHandle) (number : DriveNumber) (drive : Drive)
    (opened : OpenedDisk (Session Machine)) : Prop where
  shows : Shows disk number drive.medium opened
  attached : opened.backend.channel.firmware.drive? number = some drive
  linear : ∃ record after, recordOf number opened.backend = (.ok record, after) ∧
    record.mode = .lba

/-- The disk of a steady drive that is read by linear number mirrors it without fail. -/
theorem showsLinear_mirrors (steady : drive.Steady) (handle : driveBehind disk = .ok number)
    (size : disk.totalSectors = BlockDevice.totalSectors drive.medium) :
    BlockDevice.Mirrors (ShowsLinear disk number drive) False drive.medium where
  size_eq opened kept := (shows_mirrors handle size).size_eq opened kept.shows
  read_ends := by
    intro sector count opened kept small wanted fits
    have mirrored := (shows_mirrors handle size).read_ends sector count opened kept.shows small
      wanted fits
    obtain ⟨⟨same, sound, held, describes, -⟩, attached, record, after, met, mode⟩ := kept
    obtain rfl := Option.some.inj (describes.attached.symm.trans attached)
    have whole : (Bytes.zeros (count * sectorSize)).length = count * sectorSize :=
      List.length_replicate
    have served : Action.Ends (BlockDevice.read sector)
        { buffer := Bytes.zeros (count * sectorSize), state := opened }
        (fun _ after => after.state.backend.Linear number held) (fun _ _ => False)
        (fun _ _ => False) := by
      apply OpenedDisk.read_ends whole
      rw [same]
      exact describes.read_steady sound steady met mode handle size whole fits
    refine (served.and mirrored).mono ?_ (fun _ _ refused => refused.1)
    rintro _ last ⟨⟨there, record, cached, -, mode, -⟩, shows, read⟩
    exact ⟨⟨shows, there, record, last.state.backend, recordOf_cached cached, mode⟩, read⟩

end Session

end FirmwareDisk
