import FirmwareDisk.Proofs.Session.Drives
import FirmwareDisk.Proofs.Session.Soundness

set_option autoImplicit false

namespace FirmwareDisk.Session

/-- What can be done with a session. Whoever has lent it the firmware may change that in between. -/
inductive Operation (σ : Type) : Type 1 where
  | resolve (drive : DriveNumber)
  | openDisk (name : String)
  | iterate {τ : Type} (hook : Hook τ) (seen : τ)
  | read (disk : DiskHandle) (sector : Nat) (buffer : Bytes)
  | write (disk : DiskHandle) (sector : Nat) (bytes : Bytes)
  | transfer (drive : DriveNumber) (direction : Direction) (sector count : Nat)
  | forget (drive : DriveNumber)
  | disturb (change : σ → σ)

variable {σ : Type} [Firmware σ]

/-- What an operation does to the session. Its value is not told. -/
def Operation.run : Operation σ → Action (Session σ) DiskError Unit
  | .resolve drive => recordOf drive >>= fun _ => pure ()
  | .openDisk name => Session.openDisk name >>= fun _ => pure ()
  | .iterate hook seen =>
    Action.onPart (fun session => (session, seen)) (fun pair _ => pair.1)
      (Session.iterate hook >>= fun _ => pure ())
  | .read disk sector buffer =>
    Action.onPart (fun state => { buffer, state }) (fun lent _ => lent.state)
      (Session.read disk sector)
  | .write disk sector bytes => Session.write disk sector bytes
  | .transfer drive direction sector count =>
    Session.transfer drive direction sector count >>= fun _ => pure ()
  | .forget drive => Action.change fun session => (session.forget drive).2
  | .disturb change =>
    Action.change fun session =>
      { session with channel :=
        { session.channel with firmware := change session.channel.firmware } }

theorem resolve_calm {number : DriveNumber} {drive : Drive} {session : Session Machine}
    (attached : session.channel.firmware.drive? number = some drive)
    (shape : Addressable drive.legacy.heads drive.legacy.sectors)
    (calm : drive.transientFailures = 0) :
    ((Operation.resolve number).run session).2.channel.firmware.drive? number = some drive := by
  have resolved : Action.Ends (Operation.resolve number).run session
      (fun _ after => after.channel.firmware.drive? number = some drive)
      (fun _ after => after.channel.firmware.drive? number = some drive)
      (fun _ after => after.channel.firmware.drive? number = some drive) :=
    (recordOf_calm attached shape calm).unfaulted.bind fun _ _ still => still
  exact resolved.left

/-- The states that a session comes to. -/
inductive Reachable (settings : Settings) (firmware : σ) : Session σ → Prop where
  | start {session : Session σ} (started : start settings firmware = .ok session) :
      Reachable settings firmware session
  | step {session : Session σ} (reached : Reachable settings firmware session)
      (operation : Operation σ) (going : ∀ reason, (operation.run session).1 ≠ .fault reason) :
      Reachable settings firmware (operation.run session).2

/-- Every operation keeps a session sound and leaves no buffer. -/
theorem Operation.safe (operation : Operation σ) {session : Session σ} (sound : session.Sound) :
    Safe operation.run session (fun _ _ => True) := by
  cases operation with
  | resolve drive => exact (recordOf_safe drive sound).bind fun _ _ found => ⟨found.1, trivial⟩
  | openDisk name => exact (openDisk_safe name sound).bind fun _ _ opened => opened
  | iterate hook seen =>
    rw [Safe, Operation.run, Action.ends_onPart]
    exact (iterate_safe hook (session, seen) sound).unrefused.bind fun _ _ still => ⟨still, trivial⟩
  | read disk sector buffer =>
    rw [Safe, Operation.run, Action.ends_onPart]
    exact (read_safe disk sector { buffer, state := session } sound).mono
      (fun _ _ filled => ⟨filled.1, trivial⟩) (fun _ _ refused => refused.1)
  | write disk sector bytes => exact write_safe disk sector bytes sound
  | transfer drive direction sector count =>
    exact (transfer_safe drive direction sector count sound).bind fun _ _ moved =>
      ⟨moved.1, trivial⟩
  | forget drive => exact ⟨sound.forget drive, trivial⟩
  | disturb change => exact ⟨sound.channel _, trivial⟩

/-- A session is sound for as long as it runs. -/
theorem Reachable.sound {settings : Settings} {firmware : σ} {session : Session σ}
    (reachable : Reachable settings firmware session) : session.Sound := by
  induction reachable with
  | start started => exact start_sound started
  | step reached operation going ih =>
    obtain ⟨_, _, run, still⟩ | ⟨_, _, run, still⟩ | ⟨reason, _, run, -⟩ :=
      (operation.safe ih).cases
    · rw [run]
      exact still.1
    · rw [run]
      exact still.1
    · rw [run] at going
      exact (going reason rfl).elim

/-- Whatever was done with a session, and whatever the firmware answered: the table has one record
for a drive, every number of a record is within its bounds, and no operation asks for a region
outside a buffer. Only a service of the firmware itself may ever do that. -/
theorem reachable_table_sound {settings : Settings} {firmware : σ} {session : Session σ}
    (reachable : Reachable settings firmware session) :
    (session.cache.records.map Geometry.drive).Nodup ∧
    (∀ record ∈ session.cache.records,
      (1 ≤ record.cap ∧ record.cap ≤ 127) ∧ (1 ≤ record.chsCap ∧ record.chsCap ≤ 127) ∧
      (record.optical = true ↔ session.opticalDrive = some record.drive) ∧
      (record.optical = true → record.cap = 32) ∧
      (record.optical = false →
        (1 ≤ record.sectors ∧ record.sectors ≤ 63) ∧ 1 ≤ record.heads ∧ record.heads ≤ 255) ∧
      record.cylinders * record.heads * record.sectors ≤ record.totalSectors ∧
      (record.drive.toNat < 0x80 → record.mode ≠ .lba)) ∧
    (∀ (operation : Operation σ) (outcome : Outcome DiskError Unit) (after : Session σ),
      operation.run session = (outcome, after) →
      (∀ cause, outcome = .error cause → ¬ cause.MissesRegion) ∧
      (outcome = .fault .outsideBuffer → Firmware.Faults σ .outsideBuffer)) ∧
    ∀ (disk : DiskHandle) (sector : Nat) (buffer : Bytes) (outcome : Outcome DiskError Unit)
      (after : Lent (Session σ)), read disk sector { buffer, state := session } = (outcome, after) →
      (∀ reason, outcome ≠ .fault reason) → after.buffer.length = buffer.length := by
  have sound := reachable.sound
  refine ⟨sound.distinct, ?_, ?_, ?_⟩
  · intro record member
    have inside := sound.records record member
    refine ⟨inside.cap, inside.chsCap, inside.optical, inside.opticalCap, ?_, inside.size, ?_⟩
    · intro plain
      have shape := inside.shape plain
      exact ⟨⟨shape.sectors_pos, shape.sectors_le⟩, shape.heads_pos, shape.heads_le⟩
    · intro low
      rw [inside.mode low]
      nofun
  · intro operation outcome after run
    have safe := operation.safe sound
    refine ⟨?_, ?_⟩
    · intro cause same
      rw [same] at run
      exact (safe.of_error run).2
    · intro same
      rw [same] at run
      exact safe.of_fault run rfl
  · intro disk sector buffer outcome after run going
    have filled := read_safe disk sector { buffer, state := session } sound
    cases outcome with
    | ok => exact (filled.of_ok run).2
    | error cause => exact (filled.of_error run).2
    | fault reason => exact (going reason rfl).elim

/-- The faulty drive fails when it is met, and its record is as sound as any other once it answers.
-/
theorem reachable_table_sound_faulty :
    ∃ session : Session Machine,
      Reachable {} (Machine.attach {} 0x80 faultyDrive) session ∧
      session.cache.records.length = 1 ∧
      ∀ record ∈ session.cache.records, 1 ≤ record.cap ∧ record.cap ≤ 127 := by
  let started : Session Machine := { faultySession with cache := {} }
  have begun : Reachable {} (Machine.attach {} 0x80 faultyDrive) started := .start rfl
  have refused : ((Operation.resolve 0x80).run started).1 = .error (.unreachable "hd0") := by
    decide +kernel
  have met := begun.step (.resolve 0x80) (by rw [refused]; nofun)
  have answered :
      ((Operation.resolve 0x80).run ((Operation.resolve 0x80).run started).2).1 = .ok () := by
    decide +kernel
  have reached := met.step (.resolve 0x80) (by rw [answered]; nofun)
  refine ⟨_, reached, by decide +kernel, ?_⟩
  intro record member
  exact ((reachable_table_sound reached).2.1 record member).1

end FirmwareDisk.Session
