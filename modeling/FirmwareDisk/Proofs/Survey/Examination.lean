import FirmwareDisk.Proofs.Raid.Endings
import FirmwareDisk.Proofs.Session.Caching
import FirmwareDisk.Proofs.Session.Dependable
import FirmwareDisk.Survey.Conduct

set_option autoImplicit false

namespace FirmwareDisk.Survey

open Session

section Names

variable {σ : Type}

theorem heard_collecting {offers : List (String × Session σ)} {seen last : List String}
    {calls : List String} {stop : Option (Session σ)}
    (heard : Heard (.collecting fun _ => false) offers seen calls last stop) :
    last = calls.reverse ++ seen := by
  induction heard with
  | nothing => rfl
  | enough answer => cases answer
  | more answer _ ih =>
    cases answer
    rw [ih, List.reverse_cons, List.append_assoc, List.singleton_append]

theorem driveNamed_of_offered {bootDrive : DriveNumber} {name : String}
    {reached : List (DriveNumber × Session σ)}
    (listed : name ∈ (offered bootDrive reached).map Prod.fst) :
    ∃ drive ∈ reached.map Prod.fst, driveNamed bootDrive name = .ok drive := by
  rw [offered_names, List.mem_flatMap] at listed
  obtain ⟨drive, met, own⟩ := listed
  refine ⟨drive, met, ?_⟩
  obtain rfl | ⟨rfl, rfl⟩ := mem_namesOf.mp own
  · obtain ⟨found, other⟩ := drive.ofName_name
    rw [driveNamed, if_neg other, found]
  · rw [driveNamed, if_pos rfl]

end Names

variable {σ : Type} [Firmware σ]

/-- A device that is examined. There is a record of its drive, so it is opened without a change to
the session and without a call to the firmware. There still is one when the detection is over, and
that one is reported. -/
inductive Examined (name : String) (before : Session σ) : DeviceEntry → Session σ → Prop where
  | opened {drive : DriveNumber} {record later : Geometry} {disk : DiskHandle}
      {found : Except Raid.RaidError Raid.ArrayMember} {after : Session σ}
      (named : driveNamed before.settings.bootDrive name = .ok drive)
      (known : before.cache.get? drive = some record)
      (opened : NamedDisks.openDisk name before = (.ok disk, before))
      (unasked : (NamedDisks.openDisk name before.watched).2.transcript = [])
      (detected : (detectOn disk : Action (Session σ) Problem _) before = (.ok found, after))
      (recorded : after.cache.get? drive = some later) :
      Examined name before {
        name
        facts := some {
          drive
          geometry := some later
          hasPartitions := disk.hasPartitions
          raid := (findings found).1 }
        error := (findings found).2 } after

/-- Devices that are examined one after the other, each in the session that the ones before it
left. -/
inductive Examinations : List String → Session σ → List DeviceEntry → Session σ → Prop where
  | done (session : Session σ) : Examinations [] session [] session
  | next {name : String} {rest : List String} {before middle after : Session σ}
      {entry : DeviceEntry} {entries : List DeviceEntry} (examined : Examined name before entry middle)
      (further : Examinations rest middle entries after) :
      Examinations (name :: rest) before (entry :: entries) after

section Shape

variable {names : List String} {before after : Session σ} {entry : DeviceEntry}
  {entries : List DeviceEntry}

theorem Examined.available {name : String} (examined : Examined name before entry after) :
    entry.geometry.isSome := by
  cases examined
  rfl

theorem Examinations.map_name (examinations : Examinations names before entries after) :
    entries.map DeviceEntry.name = names := by
  induction examinations with
  | done => rfl
  | next examined _ ih =>
    rw [List.map_cons, ih]
    cases examined
    rfl

theorem Examinations.available (examinations : Examinations names before entries after) :
    ∀ entry ∈ entries, entry.geometry.isSome := by
  induction examinations with
  | done => exact fun _ listed => nomatch listed
  | next examined _ ih => exact List.forall_mem_cons.mpr ⟨examined.available, ih⟩

/-- What is reported of a device is what comes of its examination. -/
theorem Examined.run {name : String} (examined : Examined name before entry after) :
    (examine name : Action (Session σ) Problem DeviceEntry) before = (.ok entry, after) := by
  cases examined with
  | @opened drive record later disk found after named known opened _ detected recorded =>
    have handle : disk = _ := Outcome.ok.inj
      (congrArg Prod.fst (opened.symm.trans (openDisk_cached known named)))
    have caught : (Action.caught (NamedDisks.openDisk name) :
        Action (Session σ) Problem (Except DiskError DiskHandle)) before =
          (.ok (.ok disk), before) := by
      rw [Action.caught, opened]
    rw [examine, Action.bind_of_ok caught]
    dsimp only
    rw [Action.bind_of_ok detected]
    rcases findings found with ⟨raid, error⟩
    -- Closing a disk of a session leaves the session as it is.
    have closed : (Action.change (NamedDisks.close disk) : Action (Session σ) Problem Unit) after =
        (.ok (), after) := rfl
    subst handle
    refine (Action.bind_of_ok closed).trans ?_
    rw [Action.look_bind, UInt8.ofNat_toNat, recorded]
    rfl

theorem Examinations.run (examinations : Examinations names before entries after) :
    (examineAll names : Action (Session σ) Problem (List DeviceEntry)) before =
      (.ok entries, after) := by
  induction examinations with
  | done => rfl
  | next examined _ ih =>
    rw [examineAll, Action.bind_of_ok examined.run, Action.bind_of_ok ih]
    rfl

theorem deviceLines_of_available (available : entry.geometry.isSome) :
    ∃ facts record, entry.facts = some facts ∧ facts.geometry = some record ∧
      (Report.deviceLines entry).head? = some (Report.deviceLine entry.name facts record) := by
  obtain ⟨record, known⟩ := Option.isSome_iff_exists.mp available
  obtain ⟨facts, found, geometry⟩ := Option.bind_eq_some_iff.mp known
  refine ⟨facts, record, found, geometry, ?_⟩
  obtain ⟨drive, _, hasPartitions, raid⟩ := facts
  cases geometry
  rw [Report.deviceLines, found]
  rfl

end Shape

/-- A session that has a record of each of some drives, over firmware of which something is true. -/
structure Ready (kept : σ → Prop) (bootDrive : DriveNumber) (drives : List DriveNumber)
    (session : Session σ) : Prop where
  held : session.Held kept
  recorded : session.Recorded drives
  boot : session.settings.bootDrive = bootDrive

theorem stable_boot (bootDrive : DriveNumber) :
    Stable fun session : Session σ => session.settings.bootDrive = bootDrive := by
  intro before after boot step
  cases step <;> exact boot

section Detecting

variable {kept : σ → Prop} {bootDrive : DriveNumber} {drives : List DriveNumber}
  (dependable : Firmware.Dependable kept)

include dependable

theorem answers_opened {disk : DiskHandle} (sized : disk.totalSectors ≠ unknownTotal) :
    BlockDevice.Answers fun opened : OpenedDisk (Session σ) =>
      opened.disk = disk ∧ Ready kept bootDrive drives opened.backend := by
  rintro sector count opened ⟨rfl, ready⟩
  let lent : Lent (Session σ) :=
    { buffer := Bytes.zeros (count * sectorSize), state := opened.backend }
  have ends := ((read_held dependable sized sector lent ready.held).and
    (read_keeps (stable_recorded drives) opened.disk sector lent ready.recorded)).and
    (read_keeps (stable_boot bootDrive) opened.disk sector lent ready.boot)
  apply @OpenedDisk.read_ends _ _ sector count _ _ _ _ List.length_replicate
  exact ends.mono (fun _ _ ⟨⟨held, recorded⟩, boot⟩ => ⟨rfl, held, recorded, boot⟩)
    (fun _ _ ⟨⟨held, recorded⟩, boot⟩ => ⟨rfl, held, recorded, boot⟩)

theorem detectOn_ready (disk : DiskHandle) {session : Session σ}
    (ready : Ready kept bootDrive drives session) :
    ∃ found after, (detectOn disk : Action (Session σ) Problem _) session = (.ok found, after) ∧
      Ready kept bootDrive drives after := by
  have detected := @Raid.detect_ends _ _ _ { backend := session, disk }
    (fun sized => answers_opened dependable sized) ⟨rfl, ready⟩
  apply Action.Ends.returned
  rw [detectOn]
  apply Action.Ends.caught
  rw [Action.ends_onPart]
  exact detected.mono (fun _ _ still => still.2) (fun _ _ still => still.2)

theorem examined_of_named {name : String} {drive : DriveNumber} {before : Session σ}
    (ready : Ready kept bootDrive drives before) (listed : drive ∈ drives)
    (named : driveNamed bootDrive name = .ok drive) :
    ∃ entry after, Examined name before entry after ∧ Ready kept bootDrive drives after := by
  have named : driveNamed before.settings.bootDrive name = .ok drive := by rwa [ready.boot]
  obtain ⟨record, known⟩ := ready.recorded drive listed
  have watched : before.watched.cache.get? drive = some record := known
  have opened := openDisk_cached known named
  have unasked := openDisk_cached watched named
  obtain ⟨found, after, detected, still⟩ := detectOn_ready dependable _ ready
  obtain ⟨later, recorded⟩ := still.recorded drive listed
  refine ⟨_, after, .opened named known opened ?_ detected recorded, still⟩
  exact congrArg (fun run => run.2.transcript) unasked

theorem examinations_of_named {names : List String} {before : Session σ}
    (ready : Ready kept bootDrive drives before)
    (named : ∀ name ∈ names, ∃ drive ∈ drives, driveNamed bootDrive name = .ok drive) :
    ∃ entries after, Examinations names before entries after ∧
      Ready kept bootDrive drives after := by
  induction names generalizing before with
  | nil => exact ⟨[], before, .done before, ready⟩
  | cons name rest ih =>
    obtain ⟨⟨drive, listed, own⟩, others⟩ := List.forall_mem_cons.mp named
    obtain ⟨entry, middle, examined, still⟩ := examined_of_named dependable ready listed own
    obtain ⟨entries, after, further, ended⟩ := ih still others
    exact ⟨_, after, .next examined further, ended⟩

end Detecting

section Enumerating

variable {session middle : Session σ} {reached : List (DriveNumber × Session σ)}
  {fault : Option Fault}

/-- The names of all disks are those that an enumeration offers. -/
theorem diskNames_of_enumerated (enumerated : Enumerated session reached none middle) :
    (diskNames : Action (Session σ) Problem (List String)) session =
      (.ok ((offered session.settings.bootDrive reached).map Prod.fst), middle) := by
  obtain ⟨calls, last, stop, heard⟩ := Heard.exists (.collecting fun _ => false)
    (offered session.settings.bootDrive reached) []
  obtain ⟨rfl, rfl⟩ := heard.all fun _ _ => rfl
  have collected := heard_collecting heard
  rw [List.append_nil] at collected
  have run : (NamedDisks.iterate (.collecting fun _ => false) :
      Action (Session σ × List String) Problem Bool) (session, []) = (.ok false, (middle, last)) :=
    enumerated.iterate heard
  rw [diskNames, run]
  dsimp only
  rw [collected, List.reverse_reverse]

/-- A report on a session whose firmware can be depended on. -/
theorem reportOn_of_enumerated {kept : σ → Prop} (dependable : Firmware.Dependable kept)
    (held : session.Held kept) (enumerated : Enumerated session reached fault middle) :
    fault = none ∧ ∃ entries after,
      Examinations ((offered session.settings.bootDrive reached).map Prod.fst) middle entries
        after ∧
      (reportOn : Action (Session σ) Problem Report) session =
        (.ok { devices := entries }, after) := by
  obtain ⟨rfl, still, recorded⟩ := enumerated.held dependable held
  have ready : Ready kept session.settings.bootDrive (reached.map Prod.fst) middle :=
    ⟨still, recorded, congrArg Settings.bootDrive enumerated.settings⟩
  obtain ⟨entries, after, examinations, -⟩ :=
    examinations_of_named dependable ready fun _ listed => driveNamed_of_offered listed
  refine ⟨rfl, entries, after, examinations, ?_⟩
  rw [reportOn, Action.bind_of_ok (diskNames_of_enumerated enumerated),
    Action.bind_of_ok examinations.run]
  rfl

end Enumerating

end FirmwareDisk.Survey
