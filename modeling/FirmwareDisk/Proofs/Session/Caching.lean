import FirmwareDisk.Proofs.Session.Simulation
import FirmwareDisk.Proofs.Session.Steps
import FirmwareDisk.Proofs.Transfer.Lowering

set_option autoImplicit false

namespace FirmwareDisk

namespace DriveNumber

theorem ofName_name (drive : DriveNumber) :
    ofName drive.name = .ok drive ∧ drive.name ≠ Session.bootName := by
  have every : ∀ index : Fin 256, ofName? (name (UInt8.ofFin index)) = some (UInt8.ofFin index) ∧
      name (UInt8.ofFin index) ≠ Session.bootName := by
    decide +kernel
  obtain ⟨found, other⟩ := every drive.toFin
  refine ⟨?_, other⟩
  rw [ofName, show ofName? drive.name = some drive from found]

end DriveNumber

namespace Session

variable {σ : Type}

/-- A table with one record for a drive at most, each of which allows a sector at a time. -/
structure Tidy (session : Session σ) : Prop where
  distinct : session.cache.Distinct
  allows : ∀ record ∈ session.cache.records, record.Allows

theorem Tidy.insert {session : Session σ} {channel : Channel σ} {record : Geometry}
    (tidy : session.Tidy) (allows : record.Allows) :
    Tidy { session with channel, cache := session.cache.insert record } where
  distinct := tidy.distinct.insert record
  allows found member := by
    rcases GeometryCache.mem_insert member with rfl | old
    · exact allows
    · exact tidy.allows found old

variable [Firmware σ] {before after session : Session σ} {drive : DriveNumber}

/-- What a probe finds is a record of its drive that allows a sector at a time. -/
theorem probed_allows {opticalDrive : Option DriveNumber} {record : Geometry}
    {channel last : Channel σ}
    (probed : Geometry.probe drive opticalDrive channel = (.ok record, last)) :
    record.Allows ∧ record.drive = drive := by
  have found := ((Geometry.probe_ends (Firmware.keeps_excused drive) opticalDrive
    trivial).of_ok probed).1
  refine ⟨?_, found.drive⟩
  cases found with
  | optical started => exact (by decide : 1 ≤ Geometry.opticalCap ∧ 1 ≤ Geometry.opticalCap)
  | plain baseline cap fbOverride other proper positive short =>
    refine ⟨?_, positive⟩
    simp only [Geometry.ofBaseline]
    split
    · decide
    · exact positive

theorem Tidy.moved (tidy : session.Tidy) {record : Geometry} {link : Link σ}
    (cached : session.cache.get? drive = some record) {direction : Direction} {sector count : Nat}
    (left : (FirmwareDisk.transfer session.settings direction sector count
      { record, channel := session.channel }).2 = link) :
    record.Lowers link.record ∧ link.record.Allows ∧ link.record.drive = drive := by
  obtain ⟨member, number⟩ := GeometryCache.get?_some cached
  have allows := tidy.allows record member
  have lowers : record.Lowers link.record :=
    left ▸ transfer_lowers session.settings direction sector count
      { record, channel := session.channel } allows
  exact ⟨lowers, lowers.allows allows, lowers.settled.drive.trans number⟩

theorem start_empty {settings : Settings} {firmware : σ}
    (started : start settings firmware = .ok session) : session.cache = {} := by
  unfold start at started
  cases checked : settings.check with
  | error cause =>
    rw [checked] at started
    cases started
  | ok =>
    rw [checked] at started
    dsimp only at started
    rcases asked : (opticalDrive? settings.bootDrive firmware : Outcome DiskError _ × σ) with
      ⟨opticalDrive | cause | reason, after⟩ <;> rw [asked] at started <;> cases started
    rfl

namespace Step

variable {forgotten : Option DriveNumber} {record : Geometry}

theorem tidy (step : Step forgotten before after) (tidy : before.Tidy) : after.Tidy := by
  cases step with
  | exchanged session channel => exact ⟨tidy.distinct, tidy.allows⟩
  | met absent probed => exact tidy.insert (probed_allows probed).1
  | moved cached direction sector count left => exact tidy.insert (tidy.moved cached left).2.1
  | forgot session drive =>
    rw [forget_eq]
    exact ⟨tidy.distinct.erase drive, fun record member =>
      tidy.allows record (GeometryCache.mem_erase member)⟩

/-- A step that does not forget a drive lowers its record, if it changes it at all. -/
theorem lowers (step : Step forgotten before after) (tidy : before.Tidy)
    (other : forgotten ≠ some drive) (cached : before.cache.get? drive = some record) :
    ∃ later, after.cache.get? drive = some later ∧ record.Lowers later := by
  have allows := tidy.allows record (GeometryCache.get?_some cached).1
  cases step with
  | exchanged session channel => exact ⟨record, cached, .same allows⟩
  | @met session new found channel absent probed =>
    have apart : found.drive ≠ drive := by
      rintro rfl
      rw [(probed_allows probed).2, absent] at cached
      cases cached
    exact ⟨record, by rw [GeometryCache.get?_insert_other apart, cached], .same allows⟩
  | @moved session moving known link found direction sector count left =>
    obtain ⟨lowers, -, number⟩ := tidy.moved found left
    by_cases same : moving = drive
    · subst same
      obtain rfl : known = record := Option.some.inj (found.symm.trans cached)
      exact ⟨link.record, by rw [GeometryCache.get?_insert_own number], lowers⟩
    · have apart : link.record.drive ≠ drive := number ▸ same
      exact ⟨record, by rw [GeometryCache.get?_insert_other apart, cached], .same allows⟩
  | forgot session forgotten =>
    have apart : forgotten ≠ drive := fun same => other (congrArg some same)
    exact ⟨record, by rw [forget_eq, GeometryCache.get?_erase_of_ne _ apart, cached], .same allows⟩

/-- A record appears in one way only: its drive had none, and a probe found it. -/
theorem appears (step : Step forgotten before after) (tidy : before.Tidy)
    (absent : before.cache.get? drive = none) (cached : after.cache.get? drive = some record) :
    ∃ channel, Geometry.probe drive before.opticalDrive before.channel = (.ok record, channel) ∧
      after = { before with channel, cache := before.cache.insert record } := by
  cases step with
  | exchanged session channel =>
    rw [absent] at cached
    cases cached
  | @met session new found channel unknown probed =>
    have number := (probed_allows probed).2
    rw [GeometryCache.get?_insert] at cached
    split at cached
    · rename_i same
      obtain rfl := Option.some.inj cached
      obtain rfl := number.symm.trans same
      exact ⟨channel, probed, rfl⟩
    · rw [absent] at cached
      cases cached
  | @moved session moving known link found direction sector count left =>
    obtain ⟨-, -, number⟩ := tidy.moved found left
    have apart : link.record.drive ≠ drive := by
      rintro rfl
      rw [number, found] at absent
      cases absent
    rw [GeometryCache.get?_insert_other apart, absent] at cached
    cases cached
  | forgot session forgotten =>
    by_cases same : forgotten = drive
    · rw [forget_eq, same, tidy.distinct.get?_erase] at cached
      cases cached
    · rw [forget_eq, GeometryCache.get?_erase_of_ne _ same, absent] at cached
      cases cached

end Step

def Comes : Session σ → Session σ → Prop :=
  Relation.ReflTransGen fun before after => ∃ forgotten, Step forgotten before after

/-- One session comes after another without forgetting a drive in between. -/
def Remembers (drive : DriveNumber) : Session σ → Session σ → Prop :=
  Relation.ReflTransGen fun before after =>
    ∃ forgotten, forgotten ≠ some drive ∧ Step forgotten before after

theorem Comes.tidy (comes : Comes before after) (tidy : before.Tidy) : after.Tidy := by
  induction comes with
  | refl => exact tidy
  | tail _ step ih =>
    obtain ⟨_, step⟩ := step
    exact step.tidy ih

theorem Remembers.comes (remembers : Remembers drive before after) : Comes before after := by
  induction remembers with
  | refl => exact .refl
  | tail _ step ih =>
    obtain ⟨forgotten, _, step⟩ := step
    exact ih.tail ⟨forgotten, step⟩

/-- The record of a drive that is not forgotten is only ever lowered. -/
theorem Remembers.lowered (remembers : Remembers drive before after) (tidy : before.Tidy)
    {record : Geometry} (cached : before.cache.get? drive = some record) :
    ∃ later, after.cache.get? drive = some later ∧ record.Lowered later := by
  induction remembers with
  | refl => exact ⟨record, cached, .refl⟩
  | tail front step ih =>
    obtain ⟨middle, found, lowered⟩ := ih
    obtain ⟨_, other, step⟩ := step
    obtain ⟨later, kept, lowers⟩ := step.lowers (Remembers.comes front |>.tidy tidy) other found
    exact ⟨later, kept, lowered.tail lowers⟩

/-- Every record goes back to a probe of its drive, which has not been forgotten since. -/
theorem Comes.history (comes : Comes before after) (tidy : before.Tidy)
    (absent : before.cache.get? drive = none) {record : Geometry}
    (cached : after.cache.get? drive = some record) :
    ∃ met probed channel, Comes before met ∧ met.cache.get? drive = none ∧
      Geometry.probe drive met.opticalDrive met.channel = (.ok probed, channel) ∧
      Remembers drive { met with channel, cache := met.cache.insert probed } after ∧
      probed.Lowered record := by
  induction comes generalizing record with
  | refl =>
    rw [absent] at cached
    cases cached
  | @tail middle last front step ih =>
    obtain ⟨forgotten, step⟩ := step
    have neat := Comes.tidy front tidy
    cases found : middle.cache.get? drive with
    | none =>
      obtain ⟨channel, probed, rfl⟩ := step.appears neat found cached
      exact ⟨middle, record, channel, front, found, probed, .refl, .refl⟩
    | some earlier =>
      obtain ⟨met, probed, channel, begun, unknown, answered, since, lowered⟩ := ih found
      have other : forgotten ≠ some drive := by
        rintro rfl
        cases step
        rw [forget_eq, neat.distinct.get?_erase] at cached
        cases cached
      obtain ⟨later, kept, lowers⟩ := step.lowers neat other found
      obtain rfl := Option.some.inj (kept.symm.trans cached)
      exact ⟨met, probed, channel, begun, unknown, answered, since.tail ⟨forgotten, other, step⟩,
        lowered.tail lowers⟩

theorem Operation.remembers (operation : Operation σ) (other : operation.forgets? ≠ some drive)
    (session : Session σ) : Remembers drive session (operation.run session).2 := by
  have stable : Stable (Remembers drive session) :=
    fun _ _ held step => held.tail ⟨none, nofun, step⟩
  cases forgets : operation.forgets? with
  | none => exact operation.keeps stable forgets .refl
  | some forgotten =>
    cases operation with
    | forget named => exact .single ⟨some named, other, .forgot session named⟩
    | _ => cases forgets

/-- Whatever is done with a session, it comes to what it comes to by steps. -/
theorem Operation.comes (operation : Operation σ) (session : Session σ) :
    Comes session (operation.run session).2 := by
  have stable : Stable (Comes session) := fun _ _ held step => held.tail ⟨none, step⟩
  cases forgets : operation.forgets? with
  | none => exact operation.keeps stable forgets .refl
  | some forgotten =>
    cases operation with
    | forget named => exact .single ⟨some named, .forgot session named⟩
    | _ => cases forgets

theorem Reachable.comes {settings : Settings} {firmware : σ}
    (reachable : Reachable settings firmware session) :
    ∃ started, Session.start settings firmware = .ok started ∧ Comes started session := by
  induction reachable with
  | @start session started => exact ⟨session, started, .refl⟩
  | step reached operation going ih =>
    obtain ⟨started, begun, comes⟩ := ih
    exact ⟨started, begun, comes.trans (operation.comes _)⟩

theorem openDisk_cached {record : Geometry} {name : String}
    (cached : session.cache.get? drive = some record)
    (named : driveNamed session.settings.bootDrive name = .ok drive) :
    openDisk name session =
      (.ok {
        name
        backend := backendName
        id := drive.toNat
        totalSectors := record.totalSectors
        hasPartitions := session.opticalDrive ≠ some drive }, session) := by
  rw [openDisk, Action.look_bind, id, Action.bind_of_ok (Action.check_of_ok named session),
    Action.bind_of_ok (recordOf_cached cached)]
  rfl

theorem recordOf_unknown (absent : session.cache.get? drive = none) :
    recordOf drive session =
      (onChannel (Geometry.probe drive session.opticalDrive) >>= fun record =>
        Action.change (fun session => { session with cache := session.cache.insert record }) >>=
          fun _ => pure record) session := by
  rw [recordOf, Action.look_bind, absent]
  rfl

/-- A drive that cannot be met leaves the table as it was, without a record of it. -/
theorem recordOf_refused {cause : DiskError}
    (refused : recordOf drive session = (.error cause, after)) :
    after.cache = session.cache ∧ after.cache.get? drive = none := by
  have absent : session.cache.get? drive = none := by
    cases found : session.cache.get? drive with
    | none => rfl
    | some record =>
      rw [recordOf_cached found] at refused
      cases refused
  have untouched : Action.Ends (recordOf drive) session (fun _ _ => True)
      (fun _ after => after.cache = session.cache) (fun _ _ => True) := by
    apply recordOf_of_probe (fun _ _ => trivial)
    exact .intro (fun _ _ _ => trivial) (fun _ _ _ => rfl) (fun _ _ _ => trivial)
  have same := untouched.of_error refused
  exact ⟨same, same ▸ absent⟩

/-- What it means that a record stands for its drive in a session that began with some settings and
some firmware. -/
structure Stands (settings : Settings) (firmware : σ) (session : Session σ) (drive : DriveNumber)
    (record : Geometry) : Prop where
  resolved : recordOf drive session = (.ok record, session)
  opened : ∀ name, name = drive.name ∨ driveNamed session.settings.bootDrive name = .ok drive →
    openDisk name session =
      (.ok {
        name
        backend := backendName
        id := drive.toNat
        totalSectors := record.totalSectors
        hasPartitions := session.opticalDrive ≠ some drive }, session)
  unasked : (recordOf drive session.watched).2.transcript = [] ∧
    ∀ name, name = drive.name ∨ driveNamed session.settings.bootDrive name = .ok drive →
      (openDisk name session.watched).2.transcript = []
  kept : ∀ operation : Operation σ, operation.forgets? ≠ some drive →
    ∃ later, (operation.run session).2.cache.get? drive = some later ∧ record.Lowered later
  forgotten : (session.forget drive).1 = some record ∧
    (session.forget drive).2.cache.get? drive = none
  /-- A probe found the record, and all that has happened to it since is that it was lowered: no
  number of it has changed but its cap, the linear mode has not come back, and the cap has not risen
  except where the linear mode was given up. -/
  history : ∃ started met probed channel, Session.start settings firmware = .ok started ∧
    Comes started met ∧ met.cache.get? drive = none ∧
    Geometry.probe drive met.opticalDrive met.channel = (.ok probed, channel) ∧
    Remembers drive { met with channel, cache := met.cache.insert probed } session ∧
    probed.Lowered record ∧ probed.Settled record ∧
    (record.mode = probed.mode ∧ record.cap ≤ probed.cap ∨
      probed.mode = .lba ∧ record.mode = .chs ∧ record.cap ≤ probed.chsCap)

/-- In every session there can be, over any firmware and with any changes to the machine in between:
a record in the table stands for its drive, and a drive that cannot be met leaves the table as it
was, so that it is probed when it is next met. -/
theorem reachable_records_stand {settings : Settings} {firmware : σ} {session : Session σ}
    (reachable : Reachable settings firmware session) :
    (∀ drive record, session.cache.get? drive = some record →
      Stands settings firmware session drive record) ∧
    ∀ drive cause after, recordOf drive session = (.error cause, after) →
      after.cache = session.cache ∧ after.cache.get? drive = none ∧
      recordOf drive after =
        (onChannel (Geometry.probe drive after.opticalDrive) >>= fun record =>
          Action.change (fun session => { session with cache := session.cache.insert record }) >>=
            fun _ => pure record) after := by
  obtain ⟨started, begun, comes⟩ := reachable.comes
  have sound := reachable.sound
  have tidy : session.Tidy :=
    ⟨sound.distinct, fun record member =>
      ⟨(sound.records record member).cap.1, (sound.records record member).chsCap.1⟩⟩
  have empty := start_empty begun
  refine ⟨fun drive record cached => ?_, fun drive cause after refused => ?_⟩
  · have named (name : String)
        (means : name = drive.name ∨ driveNamed session.settings.bootDrive name = .ok drive) :
        driveNamed session.settings.bootDrive name = .ok drive := by
      rcases means with rfl | means
      · obtain ⟨found, other⟩ := drive.ofName_name
        rw [driveNamed, if_neg other, found]
      · exact means
    have watched : session.watched.cache.get? drive = some record := cached
    exact {
      resolved := recordOf_cached cached
      opened := fun name means => openDisk_cached cached (named name means)
      unasked := by
        refine ⟨by rw [recordOf_cached watched]; rfl, fun name means => ?_⟩
        rw [openDisk_cached watched (named name means)]
        rfl
      kept := fun operation other => (operation.remembers other session).lowered tidy cached
      forgotten := by
        rw [forget_eq]
        exact ⟨cached, tidy.distinct.get?_erase drive⟩
      -- A new session has no record, so this one goes back to a probe.
      history := by
        have neat : started.Tidy := by
          refine ⟨?_, ?_⟩
          · rw [GeometryCache.Distinct, empty]
            exact List.Pairwise.nil
          · rw [empty]
            nofun
        obtain ⟨met, probed, channel, before, absent, answered, since, lowered⟩ :=
          comes.history neat (by rw [empty]; rfl) cached
        exact ⟨started, met, probed, channel, begun, before, absent, answered, since, lowered,
          lowered.settled, lowered.cap⟩ }
  · obtain ⟨same, absent⟩ := recordOf_refused refused
    exact ⟨same, absent, recordOf_unknown absent⟩

/-- The record of the faulty drive, which fails when it is first met. -/
theorem records_stand_faulty :
    ∃ session record, Reachable {} (Machine.attach {} 0x80 faultyDrive) session ∧
      session.cache.get? 0x80 = some record ∧
      Stands {} (Machine.attach {} 0x80 faultyDrive) session 0x80 record := by
  let started : Session Machine := { faultySession with cache := {} }
  have begun : Reachable {} (Machine.attach {} 0x80 faultyDrive) started := .start rfl
  have refused : ((Operation.resolve 0x80).run started).1 = .error (.unreachable "hd0") := by
    decide +kernel
  have met := begun.step (.resolve 0x80) (by rw [refused]; nofun)
  have answered :
      ((Operation.resolve 0x80).run ((Operation.resolve 0x80).run started).2).1 = .ok () := by
    decide +kernel
  have reached := met.step (.resolve 0x80) (by rw [answered]; nofun)
  have recorded : (((Operation.resolve 0x80).run
      ((Operation.resolve 0x80).run started).2).2.cache.get? 0x80).isSome := by
    decide +kernel
  obtain ⟨record, cached⟩ := Option.isSome_iff_exists.mp recorded
  exact ⟨_, record, reached, cached, (reachable_records_stand reached).1 0x80 record cached⟩

end Session

end FirmwareDisk
