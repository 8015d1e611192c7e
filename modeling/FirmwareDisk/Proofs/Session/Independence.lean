import FirmwareDisk.Proofs.Machine.Agreement
import FirmwareDisk.Proofs.Session.Agreement
import FirmwareDisk.Proofs.Session.Operations

set_option autoImplicit false

namespace FirmwareDisk.Session

/-- What can be asked of a session for one drive. -/
inductive Request where
  | resolve (drive : DriveNumber)
  | openDisk (name : String)
  | read (disk : DiskHandle) (sector : Nat) (buffer : Bytes)
  | write (disk : DiskHandle) (sector : Nat) (bytes : Bytes)
  | forget (drive : DriveNumber)

/-- All that is told in answer to a request. -/
inductive Answer where
  | resolved (outcome : Outcome DiskError Geometry)
  | opened (outcome : Outcome DiskError DiskHandle)
  | read (outcome : Outcome DiskError Unit) (buffer : Bytes)
  | written (outcome : Outcome DiskError Unit)
  | forgotten (record : Option Geometry)
deriving DecidableEq

/-- The drive that a request is for. -/
def Request.drive (settings : Settings) : Request → Except DiskError DriveNumber
  | .resolve drive => .ok drive
  | .openDisk name => driveNamed settings.bootDrive name
  | .read disk _ _ => driveBehind disk
  | .write disk _ _ => driveBehind disk
  | .forget drive => .ok drive

/-- The answer to a request, and the session afterwards. -/
def Request.run {σ : Type} [Firmware σ] : Request → Session σ → Answer × Session σ
  | .resolve drive, session => (recordOf drive session).map .resolved id
  | .openDisk name, session => (Session.openDisk name session).map .opened id
  | .read disk sector buffer, session =>
    let after := Session.read disk sector { buffer, state := session }
    (.read after.1 after.2.buffer, after.2.state)
  | .write disk sector bytes, session => (Session.write disk sector bytes session).map .written id
  | .forget drive, session => (session.forget drive).map .forgotten id

instance (request : Request) (settings : Settings) (number : DriveNumber) :
    Decidable (request.drive settings = .ok number) :=
  match request.drive settings with
  | .error _ => .isFalse nofun
  | .ok drive => decidable_of_iff (drive = number) ⟨congrArg Except.ok, Except.ok.inj⟩

/-- The answers to those of some requests that are for one drive. -/
def answersFor {σ : Type} [Firmware σ] (number : DriveNumber) :
    List Request → Session σ → List Answer
  | [], _ => []
  | request :: rest, session =>
    if request.drive session.settings = .ok number then
      (request.run session).1 :: answersFor number rest (request.run session).2
    else answersFor number rest (request.run session).2

section Requests

variable {σ : Type} [Firmware σ] {common : Common σ} {left right : DriveNumber → Option Geometry}
  {first second : Session σ}

/-- A request for their drive has the same answer in twins, and leaves twins. -/
theorem Request.run_agrees (services : Firmware.Alike common.number common.alike)
    (request : Request) (wanted : request.drive common.settings = .ok common.number)
    (twins : Twins common left right 0 first second) :
    (request.run first).1 = (request.run second).1 ∧
      Twins common left right 0 (request.run first).2 (request.run second).2 := by
  cases request with
  | resolve drive =>
    cases wanted
    have met := (recordOf_agrees services twins).mono (fun _ _ _ done => done.1)
      (fun _ _ failed => failed)
    exact ⟨congrArg Answer.resolved met.outcome, met.left⟩
  | openDisk name =>
    have opened := openDisk_agrees services wanted twins
    exact ⟨congrArg Answer.opened opened.outcome, opened.left⟩
  | read disk sector buffer =>
    have served := @read_agrees σ common left right _ services disk wanted sector
      { buffer, state := first } { buffer, state := second } ⟨rfl, twins⟩
    obtain ⟨bytes, still⟩ := served.left
    exact ⟨congrArg₂ Answer.read served.outcome bytes, still⟩
  | write disk sector bytes =>
    have written := write_agrees services wanted sector bytes twins
    exact ⟨congrArg Answer.written written.outcome, written.left⟩
  | forget drive =>
    cases wanted
    obtain ⟨record, after⟩ := twins.forget
    exact ⟨congrArg Answer.forgotten record, after⟩

/-- A request that is for no drive changes nothing. -/
theorem Request.run_of_error {request : Request} {session : Session σ} {cause : DiskError}
    (nowhere : request.drive session.settings = .error cause) :
    (request.run session).2 = session := by
  have refused {check : Except DiskError DriveNumber} {τ α : Type} (failed : check = .error cause)
      (next : DriveNumber → Action τ DiskError α) (state : τ) :
      (liftM check >>= next : Action τ DiskError α) state = (.error cause, state) :=
    Action.bind_of_error (by rw [failed]; rfl)
  cases request with
  | resolve drive => cases nowhere
  | openDisk name => exact congrArg Prod.snd (refused nowhere _ session)
  | read disk sector buffer =>
    let lent : Lent (Session σ) := { buffer, state := session }
    exact congrArg (fun run : Outcome DiskError Unit × Lent (Session σ) => run.2.state)
      (refused nowhere _ lent)
  | write disk sector bytes => exact congrArg Prod.snd (refused nowhere _ session)
  | forget drive => cases nowhere

end Requests

/-- Sessions that have the same of one drive. -/
structure Shares (number : DriveNumber) (left right : Session Machine) : Prop where
  settings : left.settings = right.settings
  opticalDrive : left.opticalDrive = right.opticalDrive
  segment : left.channel.staging.segment = right.channel.staging.segment
  record : left.cache.get? number = right.cache.get? number
  drive : left.channel.firmware.drive? number = right.channel.firmware.drive? number

/-- A session after some calls for one drive, in which the other drives are what they were. -/
structure Continues (number : DriveNumber) (made : List Call) (before after : Session Machine) :
    Prop where
  settings : after.settings = before.settings
  opticalDrive : after.opticalDrive = before.opticalDrive
  segment : after.channel.staging.segment = before.channel.staging.segment
  distinct : after.cache.Distinct
  records : ∀ other, other ≠ number → after.cache.get? other = before.cache.get? other
  machine : Machine.Beside number made before.channel.firmware after.channel.firmware

/-- Sessions that differ in nothing but the order of their tables and of their logs, and in what
lies in their staging buffers. -/
structure Matches (first second : Session Machine) : Prop where
  settings : first.settings = second.settings
  opticalDrive : first.opticalDrive = second.opticalDrive
  segment : first.channel.staging.segment = second.channel.staging.segment
  record : ∀ number, first.cache.get? number = second.cache.get? number
  records : first.cache.records.Perm second.cache.records
  drive : ∀ number, first.channel.firmware.drive? number = second.channel.firmware.drive? number
  bootDrive : first.channel.firmware.bootDrive = second.channel.firmware.bootDrive
  floppies : first.channel.firmware.floppies = second.channel.firmware.floppies
  calls : first.channel.firmware.calls.Perm second.channel.firmware.calls

variable {number : DriveNumber} {left right : Session Machine} {request : Request}

theorem Shares.refl (number : DriveNumber) (session : Session Machine) :
    Shares number session session :=
  ⟨rfl, rfl, rfl, rfl, rfl⟩

theorem Shares.symm (shares : Shares number left right) : Shares number right left :=
  ⟨shares.settings.symm, shares.opticalDrive.symm, shares.segment.symm, shares.record.symm,
    shares.drive.symm⟩

theorem Shares.trans {middle : Session Machine} (front : Shares number left middle)
    (back : Shares number middle right) : Shares number left right :=
  ⟨front.settings.trans back.settings, front.opticalDrive.trans back.opticalDrive,
    front.segment.trans back.segment, front.record.trans back.record,
    front.drive.trans back.drive⟩

/-- Whatever was done for one drive, everything is as it was for another. -/
theorem Continues.shares {made : List Call} {before after : Session Machine}
    (continued : Continues number made before after) {other : DriveNumber}
    (apart : other ≠ number) : Shares other before after where
  settings := continued.settings.symm
  opticalDrive := continued.opticalDrive.symm
  segment := continued.segment.symm
  record := (continued.records other apart).symm
  drive := (continued.machine.others other apart).symm

/-- A request for a drive that two sessions share does the same in both. -/
theorem Shares.run (shares : Shares number left right) (distinct : left.cache.Distinct)
    (also : right.cache.Distinct) (wanted : request.drive left.settings = .ok number) :
    (request.run left).1 = (request.run right).1 ∧
      Shares number (request.run left).2 (request.run right).2 ∧
      ∃ made, Continues number made left (request.run left).2 ∧
        Continues number made right (request.run right).2 := by
  let common : Common Machine := {
    number
    alike := Machine.Alike number left.channel.firmware right.channel.firmware
    settings := left.settings
    opticalDrive := left.opticalDrive
    segment := left.channel.staging.segment }
  -- What the sessions share is all that a request for the drive can tell them apart by.
  have twins : Twins common left.cache.get? right.cache.get? 0 left right := {
    here := ⟨rfl, rfl, distinct, fun _ _ => rfl⟩
    there := ⟨shares.settings.symm, shares.opticalDrive.symm, also, fun _ _ => rfl⟩
    channel := ⟨⟨shares.drive, [], .refl _ _, .refl _ _⟩, rfl, shares.segment.symm, rfl⟩
    record := shares.record }
  obtain ⟨answer, after⟩ := request.run_agrees
    (Machine.alike_services number left.channel.firmware right.channel.firmware) wanted twins
  obtain ⟨made, front, back⟩ := after.channel.firmware.made
  refine ⟨answer, ?_, made, ?_, ?_⟩
  · exact {
      settings := after.here.settings.trans after.there.settings.symm
      opticalDrive := after.here.opticalDrive.trans after.there.opticalDrive.symm
      segment := after.channel.here.trans after.channel.there.symm
      record := after.record
      drive := after.channel.firmware.drive }
  · exact {
      settings := after.here.settings
      opticalDrive := after.here.opticalDrive
      segment := after.channel.here
      distinct := after.here.distinct
      records := after.here.others
      machine := front }
  · exact {
      settings := after.there.settings.trans shares.settings
      opticalDrive := after.there.opticalDrive.trans shares.opticalDrive
      segment := after.channel.there.trans shares.segment
      distinct := after.there.distinct
      records := after.there.others
      machine := back }

theorem Request.continues {session : Session Machine} (distinct : session.cache.Distinct)
    (wanted : request.drive session.settings = .ok number) :
    ∃ made, Continues number made session (request.run session).2 := by
  obtain ⟨-, -, made, continued, -⟩ := (Shares.refl number session).run distinct distinct wanted
  exact ⟨made, continued⟩

/-- A request for another drive, or for none, leaves everything of a drive as it was. -/
theorem Request.bypasses {session : Session Machine} (distinct : session.cache.Distinct)
    (elsewhere : request.drive session.settings ≠ .ok number) :
    Shares number session (request.run session).2 ∧ (request.run session).2.cache.Distinct := by
  cases wanted : request.drive session.settings with
  | error cause =>
    rw [request.run_of_error wanted]
    exact ⟨.refl number session, distinct⟩
  | ok drive =>
    have apart : number ≠ drive := by
      rintro rfl
      exact elsewhere wanted
    obtain ⟨_, continued⟩ := request.continues distinct wanted
    exact ⟨continued.shares apart, continued.distinct⟩

/-- Whatever is asked for other drives in between, the requests for one drive have the answers that
they have alone, in any session that has the same of that drive. -/
theorem Shares.answersFor_alone (requests : List Request) (shares : Shares number left right)
    (distinct : left.cache.Distinct) (also : right.cache.Distinct) :
    answersFor number requests left =
      answersFor number
        (requests.filter fun request => request.drive left.settings = .ok number) right := by
  induction requests generalizing left right with
  | nil => rfl
  | cons request rest ih =>
    by_cases own : request.drive left.settings = .ok number
    · obtain ⟨answer, after, _, front, back⟩ := shares.run distinct also own
      have there : request.drive right.settings = .ok number := shares.settings ▸ own
      have later := ih after front.distinct back.distinct
      rw [front.settings] at later
      simp only [List.filter_cons, own, decide_true, ↓reduceIte, answersFor, there, answer, later]
    · obtain ⟨around, neat⟩ := request.bypasses distinct own
      have later := ih (around.symm.trans shares) neat also
      rw [← around.settings] at later
      simp only [List.filter_cons, own, decide_false, Bool.false_eq_true, ↓reduceIte, answersFor,
        later]

/-- Two views of the drives, each of which was changed for one drive and then for another, are the
same if each change comes to the same whether it was made first or last. -/
theorem view_either_order {α : Type} {one other : DriveNumber} (apart : one ≠ other)
    {start front back done undone : DriveNumber → α}
    (forward : ∀ number, number ≠ one → front number = start number)
    (finished : ∀ number, number ≠ other → done number = front number)
    (backward : ∀ number, number ≠ other → back number = start number)
    (returned : ∀ number, number ≠ one → undone number = back number)
    (same : front one = undone one) (alike : back other = done other) :
    ∀ number, done number = undone number := by
  intro number
  by_cases first : number = one
  · rw [first, finished one apart, same]
  by_cases second : number = other
  · rw [second, returned other apart.symm, alike]
  · rw [finished number second, forward number first, returned number first,
      backward number second]

/-- Sessions in which two requests were served in one order and in the other match. -/
theorem Continues.either_order {one other : DriveNumber} (apart : one ≠ other)
    {made calls : List Call} {start front back done undone : Session Machine}
    (forward : Continues one made start front) (finished : Continues other calls front done)
    (backward : Continues other calls start back) (returned : Continues one made back undone)
    (same : Shares one front undone) (alike : Shares other back done) : Matches done undone where
  settings := finished.settings.trans same.settings
  opticalDrive := finished.opticalDrive.trans same.opticalDrive
  segment := finished.segment.trans same.segment
  record := view_either_order apart forward.records finished.records backward.records
    returned.records same.record alike.record
  records := finished.distinct.perm returned.distinct
    (view_either_order apart forward.records finished.records backward.records returned.records
      same.record alike.record)
  drive := view_either_order apart forward.machine.others finished.machine.others
    backward.machine.others returned.machine.others same.drive alike.drive
  bootDrive := by
    rw [finished.machine.bootDrive, forward.machine.bootDrive, returned.machine.bootDrive,
      backward.machine.bootDrive]
  floppies := by
    rw [finished.machine.floppies, forward.machine.floppies, returned.machine.floppies,
      backward.machine.floppies]
  calls := by
    rw [finished.machine.calls, forward.machine.calls, returned.machine.calls,
      backward.machine.calls, List.append_assoc, List.append_assoc]
    exact List.perm_append_comm.append_left _

/-- A request does the same in sessions that match. -/
theorem Matches.run {first second : Session Machine} (same : Matches first second)
    (distinct : first.cache.Distinct) (also : second.cache.Distinct)
    (wanted : request.drive first.settings = .ok number) :
    (request.run first).1 = (request.run second).1 ∧
      Matches (request.run first).2 (request.run second).2 := by
  have shares : Shares number first second :=
    ⟨same.settings, same.opticalDrive, same.segment, same.record number, same.drive number⟩
  obtain ⟨answer, after, made, front, back⟩ := shares.run distinct also wanted
  have record (other : DriveNumber) :
      (request.run first).2.cache.get? other = (request.run second).2.cache.get? other := by
    by_cases own : other = number
    · rw [own, after.record]
    · rw [front.records other own, back.records other own, same.record]
  refine ⟨answer, {
    settings := after.settings
    opticalDrive := after.opticalDrive
    segment := after.segment
    record
    records := front.distinct.perm back.distinct record
    drive := ?_
    bootDrive := by rw [front.machine.bootDrive, back.machine.bootDrive, same.bootDrive]
    floppies := by rw [front.machine.floppies, back.machine.floppies, same.floppies]
    calls := ?_ }⟩
  · intro other
    by_cases own : other = number
    · rw [own, after.drive]
    · rw [front.machine.others other own, back.machine.others other own, same.drive]
  · rw [front.machine.calls, back.machine.calls]
    exact same.calls.append_right made

/-- The session with another staging buffer. -/
def restaged (session : Session Machine) (staging : Staging) : Session Machine :=
  { session with channel := { session.channel with staging } }

/-- Requests for different drives have the same answers in either order, and leave the same records,
the same media and the same pending failures. A request has the same answer and leaves the same of
these, whatever lay in the staging buffer. -/
theorem requests_independent {settings : Settings} {firmware : Machine} {session : Session Machine}
    (reachable : Reachable settings firmware session) {one other : DriveNumber}
    (apart : one ≠ other) {first second : Request}
    (ofOne : first.drive session.settings = .ok one)
    (ofOther : second.drive session.settings = .ok other) :
    (second.run (first.run session).2).1 = (second.run session).1 ∧
    (first.run (second.run session).2).1 = (first.run session).1 ∧
    Matches (second.run (first.run session).2).2 (first.run (second.run session).2).2 ∧
    ∀ staging : Staging, staging.segment = session.channel.staging.segment →
      (first.run (session.restaged staging)).1 = (first.run session).1 ∧
      Matches (first.run (session.restaged staging)).2 (first.run session).2 := by
  have distinct := reachable.sound.distinct
  obtain ⟨_, begun⟩ := first.continues distinct ofOne
  obtain ⟨_, rebegun⟩ := second.continues distinct ofOther
  obtain ⟨later, alike, calls, backward, finished⟩ :=
    (begun.shares apart.symm).run distinct begun.distinct ofOther
  obtain ⟨sooner, same, made, forward, returned⟩ :=
    (rebegun.shares apart).run distinct rebegun.distinct ofOne
  have either := forward.either_order apart finished backward returned same alike
  refine ⟨later.symm, sooner.symm, either, ?_⟩
  intro staging segment
  have restaged : Matches (session.restaged staging) session :=
    ⟨rfl, rfl, segment, fun _ => rfl, .refl _, fun _ => rfl, rfl, rfl, .refl _⟩
  exact restaged.run distinct distinct ofOne

def mixedMachine : Machine :=
  (Machine.attach {} 0x80 faultyDrive).attach 0
    (.floppy { store := .memory { totalSectors := 2880 } })

/-- The floppy drive, opened. -/
def mixedDisk : DiskHandle where
  name := "fd0"
  backend := backendName
  id := 0
  totalSectors := 2880
  hasPartitions := true

/-- The first probe of the faulty drive fails, and a write to the floppy drive does not, whichever
of them comes first. -/
theorem requests_independent_mixed :
    ∃ session : Session Machine, Reachable {} mixedMachine session ∧
      ((Request.openDisk "hd0").run
        ((Request.write mixedDisk 5 (Bytes.zeros sectorSize)).run session).2).1 =
          .opened (.error (.unreachable "hd0")) ∧
      ((Request.write mixedDisk 5 (Bytes.zeros sectorSize)).run
        ((Request.openDisk "hd0").run session).2).1 = .written (.ok ()) := by
  let started : Session Machine := {
    channel := { firmware := mixedMachine, staging := Staging.empty 0x6800 }
    settings := {}
    opticalDrive := none }
  have begun : Reachable {} mixedMachine started := .start rfl
  obtain ⟨opened, written, -⟩ :=
    requests_independent begun (by decide : (0x00 : DriveNumber) ≠ 0x80)
      (rfl : (Request.write mixedDisk 5 (Bytes.zeros sectorSize)).drive started.settings = .ok 0x00)
      (by rfl : (Request.openDisk "hd0").drive started.settings = .ok 0x80)
  refine ⟨started, begun, opened.trans ?_, written.trans ?_⟩
  · decide +kernel
  · decide +kernel

end FirmwareDisk.Session
