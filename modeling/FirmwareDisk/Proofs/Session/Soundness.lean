import FirmwareDisk.Proofs.Geometry.Cache
import FirmwareDisk.Proofs.Medium.Requests
import FirmwareDisk.Proofs.Session.Pieces
import FirmwareDisk.Proofs.Session.Rounds
import FirmwareDisk.Proofs.Transfer.Soundness

set_option autoImplicit false

namespace FirmwareDisk.Session

variable {σ : Type}

/-- A session whose settings are valid and whose records are sound, with at most one for a drive. -/
structure Sound (session : Session σ) : Prop where
  valid : session.settings.check = .ok ()
  fixed : ∀ drive, session.opticalDrive = some drive → 0x80 ≤ drive.toNat
  distinct : session.cache.Distinct
  records : ∀ record ∈ session.cache.records, record.Sound session.opticalDrive

namespace Sound

variable {session : Session σ}

theorem channel (sound : session.Sound) (channel : Channel σ) :
    Sound { session with channel } :=
  ⟨sound.valid, sound.fixed, sound.distinct, sound.records⟩

theorem insert (sound : session.Sound) (channel : Channel σ) {record : Geometry}
    (new : record.Sound session.opticalDrive) :
    Sound { session with channel, cache := session.cache.insert record } where
  valid := sound.valid
  fixed := sound.fixed
  distinct := sound.distinct.insert record
  records found member := by
    rcases GeometryCache.mem_insert member with same | old
    · rw [same]
      exact new
    · exact sound.records found old

theorem forget (sound : session.Sound) (drive : DriveNumber) : (session.forget drive).2.Sound := by
  rw [forget_eq]
  exact ⟨sound.valid, sound.fixed, sound.distinct.erase drive, fun found member =>
    sound.records found (GeometryCache.mem_erase member)⟩

end Sound

variable [Firmware σ]

/-- Only a number of a fixed disk is ever taken for the optical drive. -/
theorem opticalDrive?_fixed {bootDrive drive : DriveNumber} {before after : σ}
    (found : (opticalDrive? bootDrive before : Outcome DiskError _ × σ) =
      (.ok (some drive), after)) :
    0x80 ≤ drive.toNat := by
  unfold opticalDrive? at found
  dsimp only at found
  split at found
  · simp only [Prod.mk.injEq, Outcome.ok.injEq] at found
    obtain ⟨chosen, -⟩ := found
    split at chosen
    · rename_i plain
      simp only [Option.some.injEq] at chosen
      rw [OpticalPacket.isPlainOptical, Bool.and_eq_true] at plain
      have high := of_decide_eq_true plain.2
      rw [chosen] at high
      exact high
    · cases chosen
  · cases found
  · cases found

/-- A new session is sound, whatever the firmware says of its optical drive. -/
theorem start_sound {settings : Settings} {firmware : σ} {session : Session σ}
    (started : start settings firmware = .ok session) : session.Sound := by
  unfold start at started
  cases checked : settings.check with
  | error cause =>
    rw [checked] at started
    cases started
  | ok =>
    rw [checked] at started
    dsimp only at started
    rcases asked : (opticalDrive? settings.bootDrive firmware : Outcome DiskError _ × σ) with
      ⟨opticalDrive | cause | reason, after⟩
    · rw [asked] at started
      cases started
      refine ⟨checked, ?_, List.Pairwise.nil, nofun⟩
      intro drive same
      dsimp only at same
      rw [same] at asked
      exact opticalDrive?_fixed asked
    · rw [asked] at started
      cases started
    · rw [asked] at started
      cases started

/-- The run of an operation keeps the session sound and leaves no buffer, and what it returns is as
promised. -/
def Safe {α : Type} (operation : Action (Session σ) DiskError α) (before : Session σ)
    (returns : α → Session σ → Prop) : Prop :=
  Action.Ends operation before (fun value after => after.Sound ∧ returns value after)
    (fun cause after => after.Sound ∧ ¬ cause.MissesRegion)
    (fun reason _ => Firmware.Excuses σ reason)

theorem Rejects.misses {disk : DiskHandle} {sector length : Nat} {cause : DiskError}
    (rejects : Rejects disk sector length cause) : ¬ cause.MissesRegion := by
  cases rejects with
  | drive refused =>
    unfold driveBehind at refused
    split at refused
    · cases refused
    · cases refused
      exact id
  | length refused =>
    unfold sectorCount at refused
    split at refused
    · cases refused
    · cases refused
      exact id
  | range refused =>
    unfold checkRequest at refused
    split at refused
    · cases refused
    · split at refused
      · cases refused
        exact id
      · cases refused

/-- Meeting a drive adds a sound record of it, if it has none. -/
theorem recordOf_safe (drive : DriveNumber) {session : Session σ}
    (sound : session.Sound) :
    Safe (recordOf drive) session (fun record after =>
      after.settings = session.settings ∧ record.Sound after.opticalDrive) := by
  apply recordOf_of_probe
  · intro record cached
    have member := (GeometryCache.get?_some cached).1
    exact ⟨sound, rfl, sound.records record member⟩
  · refine (Geometry.probe_ends (Firmware.keeps_excused drive) session.opticalDrive
      trivial).mono ?_ ?_
    · intro record channel found
      have new := found.1.sound sound.fixed
      exact ⟨sound.insert channel new, rfl, new⟩
    · intro cause channel refused
      rw [refused.1]
      exact ⟨sound.channel channel, id⟩

theorem recordOf_recorded (drive : DriveNumber) (session : Session σ) :
    Action.Ends (recordOf drive) session
      (fun record after => after.cache.get? drive = some record ∧ record.drive = drive)
      (fun _ _ => True) (fun reason _ => Firmware.Excuses σ reason) := by
  apply recordOf_of_probe
  · intro record cached
    exact ⟨cached, (GeometryCache.get?_some cached).2⟩
  · refine (Geometry.probe_ends (Firmware.keeps_excused drive) session.opticalDrive
      trivial).mono ?_ (fun _ _ _ => trivial)
    intro record channel found
    have own := found.1.drive
    refine ⟨?_, own⟩
    rw [GeometryCache.get?_insert_own own]

/-- A transfer moves no more than the longest there is. -/
theorem transfer_safe (drive : DriveNumber)
    (direction : Direction) (sector count : Nat) {session : Session σ} (sound : session.Sound) :
    Safe (transfer drive direction sector count) session (fun moved _ => moved ≤ 127) := by
  refine (recordOf_safe drive sound).bind ?_
  intro record after found
  obtain ⟨still, -, known⟩ := found
  rw [Action.ends_look_bind, Action.ends_onPart]
  refine (FirmwareDisk.transfer_sound still.valid direction sector count _ known).mono
    ?_ ?_
  · intro moved link done
    exact ⟨still.insert link.channel done.2, done.1⟩
  · intro cause link refused
    exact ⟨still.insert link.channel refused.2, refused.1⟩

/-- Every round of a read passes on bytes that the staging buffer has, so the caller's buffer is as
long as before. -/
theorem readUnits_safe (device : String) (drive : DriveNumber)
    (unit sector : Nat) (lent : Lent (Session σ)) (sound : lent.state.Sound) :
    Action.Ends (readUnits device drive unit sector) lent
      (fun _ after => after.state.Sound ∧ after.buffer.length = lent.buffer.length)
      (fun cause after => (after.state.Sound ∧ ¬ cause.MissesRegion) ∧
        after.buffer.length = lent.buffer.length)
      (fun reason _ => Firmware.Excuses σ reason) := by
  generalize size : lent.buffer.length = total
  induction total using Nat.strongRecOn generalizing sector lent with
  | ind total ih =>
    by_cases done : lent.buffer.length / sectorSize = 0
    · exact readUnits_done done ⟨sound, size⟩
    · apply readUnits_round done
      refine (transfer_safe drive .read _ _ sound).mono ?_ ?_
      · intro moved state result length same
        obtain ⟨still, few⟩ := result
        have sectors : Staging.sectors = 128 := rfl
        refine ⟨fun _ => ⟨⟨still, id⟩, size⟩,
          fun more => ⟨fun far => by omega, fun _ => Firmware.excuses_overflow, ?_⟩⟩
        intro room _
        have present : length * sectorSize ≤ lent.buffer.length := by
          have part : length ≤ lent.buffer.length / sectorSize := by omega
          exact (Nat.le_div_iff_mul_le (by decide)).mp part
        have whole : (Bytes.slice state.channel.staging.data (sector % unit * sectorSize)
            (length * sectorSize)).length = length * sectorSize := by
          have bytes := Staging.mul_le_byteSize room
          rw [Nat.add_mul] at bytes
          rw [Bytes.slice, List.length_take, List.length_drop, state.channel.staging.length_data]
          omega
        have less : (lent.buffer.drop (length * sectorSize)).length < total := by
          rw [List.length_drop, size]
          simp only [sectorSize] at present ⊢
          omega
        refine (ih _ less (sector + length) _ still rfl).mono ?_ ?_
        · intro _ after rest
          refine ⟨rest.1, ?_⟩
          rw [List.length_append, whole, rest.2, List.length_drop, size]
          omega
        · intro cause after rest
          refine ⟨rest.1, ?_⟩
          rw [List.length_append, whole, rest.2, List.length_drop, size]
          omega
      · intro cause state refused
        exact ⟨refused, size⟩

/-- A read gives the caller a buffer of the length it was lent. -/
theorem read_safe (disk : DiskHandle) (sector : Nat)
    (lent : Lent (Session σ)) (sound : lent.state.Sound) :
    Action.Ends (read disk sector) lent
      (fun _ after => after.state.Sound ∧ after.buffer.length = lent.buffer.length)
      (fun cause after => (after.state.Sound ∧ ¬ cause.MissesRegion) ∧
        after.buffer.length = lent.buffer.length)
      (fun reason _ => Firmware.Excuses σ reason) := by
  apply read_of_units
  · intro cause rejects
    exact ⟨⟨sound, rejects.misses⟩, rfl⟩
  intro drive _ _ _ _
  refine (recordOf_safe drive sound).mono ?_ ?_
  · intro record state found
    exact readUnits_safe disk.name drive _ sector { lent with state } found.1
  · intro cause state refused
    exact ⟨refused, rfl⟩

/-- The staged sectors that are left to write always fit in the staging buffer. -/
theorem writeStaged_safe (drive : DriveNumber) (sector : Nat) {remaining : Nat}
    {session : Session σ} (sound : session.Sound) (room : remaining ≤ Staging.sectors) :
    Safe (writeStaged drive sector remaining) session (fun _ _ => True) := by
  induction remaining using Nat.strongRecOn generalizing sector session with
  | ind remaining ih =>
    by_cases done : remaining = 0
    · subst done
      exact writeStaged_done ⟨sound, trivial⟩
    · apply writeStaged_round done
      have first := (transfer_safe drive .write sector remaining sound).with_run
      refine first.mono ?_ (fun _ _ refused => refused)
      intro moved after result
      obtain ⟨run, still, -⟩ := result
      have progress := transfer_moved (Nat.pos_of_ne_zero done) run
      refine ⟨fun _ => Firmware.excuses_overflow, fun many => by omega, fun _ _ => ?_⟩
      exact ih (remaining - moved) (by omega) _ (still.channel _) (by omega)

/-- Every piece is staged before it is written, and fits. -/
theorem writePieces_safe (drive : DriveNumber) (sector : Nat) (pieces : List Bytes)
    {session : Session σ} (sound : session.Sound)
    (whole : ∀ piece ∈ pieces, ∃ length ≤ Staging.sectors, piece.length = length * sectorSize) :
    Safe (writePieces drive sector pieces) session (fun _ _ => True) := by
  induction pieces generalizing sector session with
  | nil => exact ⟨sound, trivial⟩
  | cons piece rest ih =>
    obtain ⟨sectors, room, length⟩ := whole piece List.mem_cons_self
    have count : piece.length / sectorSize = sectors := by
      rw [length, Nat.mul_div_cancel _ (by decide)]
    rw [writePieces, count]
    refine (stage_ends session length room).bind ?_
    intro _ staged same
    have still : staged.Sound := by
      rw [same]
      exact sound.channel _
    refine (writeStaged_safe drive sector still room).bind ?_
    intro next after written
    exact ih next written.1 fun later member => whole later (List.mem_cons_of_mem piece member)

theorem write_safe (disk : DiskHandle) (sector : Nat) (bytes : Bytes) {session : Session σ}
    (sound : session.Sound) : Safe (write disk sector bytes) session (fun _ _ => True) := by
  apply write_of_pieces
  · intro cause rejects
    exact ⟨sound, rejects.misses⟩
  intro drive count _ counted
  have whole := sectorCount_ok counted
  refine (recordOf_safe drive sound).mono ?_ (fun _ _ refused => refused)
  intro record after found
  refine ⟨fun _ => ⟨found.1, id⟩, fun _ => ⟨?_, fun _ => ?_⟩⟩
  · intro cause refused
    have rejects : Rejects disk sector bytes.length cause := .range refused
    exact ⟨found.1, rejects.misses⟩
  · exact writePieces_safe drive sector _ found.1 fun piece member =>
      writtenPieces_sectors whole member

theorem driveNamed_misses {bootDrive : DriveNumber} {name : String} {cause : DiskError}
    (refused : driveNamed bootDrive name = .error cause) : ¬ cause.MissesRegion := by
  unfold driveNamed at refused
  split at refused
  · cases refused
  · unfold DriveNumber.ofName at refused
    split at refused
    · cases refused
    · cases refused
      exact id

theorem openDisk_safe (name : String) {session : Session σ} (sound : session.Sound) :
    Safe (openDisk name) session (fun _ _ => True) := by
  unfold openDisk Safe
  rw [Action.ends_look_bind]
  apply Action.ends_check_bind
  · intro cause refused
    exact ⟨sound, driveNamed_misses refused⟩
  intro drive _
  refine (recordOf_safe drive sound).bind ?_
  intro record after found
  exact ⟨found.1, trivial⟩

section Enumeration

variable {τ ε : Type}

/-- A caller that is offered a name cannot touch the session. -/
theorem offer_safe (hook : Hook τ) (name : String) {pair : Session σ × τ} (sound : pair.1.Sound) :
    Action.Ends (hook.offer name : Action (Session σ × τ) ε Bool) pair
      (fun _ after => after.1.Sound) (fun _ _ => False)
      (fun reason _ => Firmware.Excuses σ reason) := sound

theorem offerDrive_safe (hook : Hook τ) (drive : DriveNumber) {pair : Session σ × τ}
    (sound : pair.1.Sound) :
    Action.Ends (offerDrive hook drive : Action (Session σ × τ) ε Bool) pair
      (fun _ after => after.1.Sound) (fun _ _ => False)
      (fun reason _ => Firmware.Excuses σ reason) := by
  unfold offerDrive
  have met : Action.Ends
      (beside (Action.caught (recordOf drive)) :
        Action (Session σ × τ) ε (Except DiskError Geometry)) pair
      (fun _ after => after.1.Sound) (fun _ _ => False)
      (fun reason _ => Firmware.Excuses σ reason) := by
    rw [beside, Action.ends_onPart]
    apply Action.Ends.caught
    exact (recordOf_safe drive sound).mono (fun _ _ found => found.1)
      (fun _ _ refused => refused.1)
  refine met.bind ?_
  intro answer middle still
  cases answer with
  | error _ => exact still
  | ok _ =>
    refine (offer_safe hook drive.name still).bind ?_
    intro enough seen still
    cases enough with
    | true => exact still
    | false =>
      simp only [Bool.false_eq_true, ↓reduceIte]
      rw [Action.ends_look_bind]
      split
      · exact offer_safe hook bootName still
      · exact still

theorem offerDrives_safe (hook : Hook τ) (drives : List DriveNumber) {pair : Session σ × τ}
    (sound : pair.1.Sound) :
    Action.Ends (offerDrives hook drives : Action (Session σ × τ) ε Bool) pair
      (fun _ after => after.1.Sound) (fun _ _ => False)
      (fun reason _ => Firmware.Excuses σ reason) := by
  induction drives generalizing pair with
  | nil => exact sound
  | cons drive rest ih =>
    rw [offerDrives]
    refine (offerDrive_safe hook drive sound).bind ?_
    intro enough middle still
    cases enough with
    | true => exact still
    | false => exact ih still

/-- An enumeration is never refused. -/
theorem iterate_safe (hook : Hook τ) (pair : Session σ × τ) (sound : pair.1.Sound) :
    Action.Ends (iterate hook : Action (Session σ × τ) ε Bool) pair
      (fun _ after => after.1.Sound) (fun _ _ => False)
      (fun reason _ => Firmware.Excuses σ reason) := by
  unfold iterate
  rw [Action.ends_look_bind]
  refine (offerDrives_safe hook _ sound).bind ?_
  intro enough middle still
  cases enough with
  | true => exact still
  | false =>
    refine Action.Ends.bind (?_ : Action.Ends _ middle (fun _ after => after.1.Sound)
      (fun _ _ => False) (fun reason _ => Firmware.Excuses σ reason)) ?_
    · exact still.channel _
    · intro count after still
      exact offerDrives_safe hook _ still

end Enumeration

end FirmwareDisk.Session
