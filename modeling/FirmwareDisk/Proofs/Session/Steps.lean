import FirmwareDisk.Proofs.Session.Operations

set_option autoImplicit false

namespace FirmwareDisk.Session

variable {σ : Type} [Firmware σ]

/-- One step of a session, with the drive that it forgets if it forgets one. -/
inductive Step : Option DriveNumber → Session σ → Session σ → Prop
  | exchanged (session : Session σ) (channel : Channel σ) :
    Step none session { session with channel }
  | met {session : Session σ} {drive : DriveNumber} {record : Geometry} {channel : Channel σ}
    (absent : session.cache.get? drive = none)
    (probed : Geometry.probe drive session.opticalDrive session.channel = (.ok record, channel)) :
    Step none session { session with channel, cache := session.cache.insert record }
  | moved {session : Session σ} {drive : DriveNumber} {record : Geometry} {link : Link σ}
    (cached : session.cache.get? drive = some record) (direction : Direction) (sector count : Nat)
    (left : (FirmwareDisk.transfer session.settings direction sector count
      { record, channel := session.channel }).2 = link) :
    Step none session
      { session with channel := link.channel, cache := session.cache.insert link.record }
  | forgot (session : Session σ) (drive : DriveNumber) :
    Step (some drive) session (session.forget drive).2

def Operation.forgets? : Operation σ → Option DriveNumber
  | .forget drive => some drive
  | _ => none

/-- The run of an action keeps a property of the session, however it ends. -/
def Keeps {ε α : Type} (kept : Session σ → Prop) (action : Action (Session σ) ε α)
    (before : Session σ) : Prop :=
  Action.Ends action before (fun _ => kept) (fun _ => kept) (fun _ => kept)

/-- What every step keeps true that forgets nothing. -/
def Stable (kept : Session σ → Prop) : Prop :=
  ∀ before after, kept before → Step none before after → kept after

section

variable {kept : Session σ → Prop} {session : Session σ}

/-- Meeting a drive is a step or none. -/
theorem recordOf_keeps (stable : Stable kept) (drive : DriveNumber) (held : kept session) :
    Keeps kept (recordOf drive) session := by
  cases found : session.cache.get? drive with
  | some record =>
    unfold Keeps Action.Ends
    rw [recordOf_cached found]
    exact held
  | none =>
    apply recordOf_of_probe
    · intro record cached
      rw [found] at cached
      cases cached
    · refine .intro ?_ ?_ ?_
      · exact fun record channel probed => stable _ _ held (.met found probed)
      · exact fun _ channel _ => stable _ _ held (.exchanged session channel)
      · exact fun _ channel _ => stable _ _ held (.exchanged session channel)

/-- A transfer is a step more. -/
theorem transfer_keeps (stable : Stable kept) (drive : DriveNumber) (direction : Direction)
    (sector count : Nat) (held : kept session) :
    Keeps kept (transfer drive direction sector count) session := by
  have met : Action.Ends (recordOf drive) session
      (fun record after => kept after ∧ after.cache.get? drive = some record)
      (fun _ => kept) (fun _ => kept) := by
    have recorded := recordOf_recorded drive session
    have keeps := recordOf_keeps stable drive held
    refine .intro ?_ ?_ ?_
    · exact fun _ _ run => ⟨keeps.of_ok run, (recorded.of_ok run).1⟩
    · exact fun _ _ run => keeps.of_error run
    · exact fun _ _ run => keeps.of_fault run
  refine met.bind ?_
  rintro record after ⟨held, cached⟩
  rw [Action.ends_look_bind, Action.ends_onPart]
  have step (link : Link σ) (left : (FirmwareDisk.transfer after.settings direction sector count
      { record, channel := after.channel }).2 = link) :=
    stable _ _ held (.moved cached direction sector count left)
  refine .intro ?_ ?_ ?_
  · exact fun _ link run => step link (congrArg Prod.snd run)
  · exact fun _ link run => step link (congrArg Prod.snd run)
  · exact fun _ link run => step link (congrArg Prod.snd run)

/-- A read is as many transfers as it takes. -/
theorem readUnits_keeps (stable : Stable kept) (device : String) (drive : DriveNumber)
    (unit sector : Nat) (lent : Lent (Session σ)) (held : kept lent.state) :
    Action.Ends (readUnits device drive unit sector) lent (fun _ after => kept after.state)
      (fun _ after => kept after.state) (fun _ after => kept after.state) := by
  generalize size : lent.buffer.length = total
  induction total using Nat.strongRecOn generalizing sector lent with
  | ind total ih =>
    by_cases done : lent.buffer.length / sectorSize = 0
    · exact readUnits_done done held
    · apply readUnits_round done
      refine (transfer_keeps stable drive .read _ _ held).mono ?_ (fun _ _ still => still)
      rintro moved state still length rfl
      refine ⟨fun _ => still, fun more => ⟨fun _ => still, fun _ => still, fun _ _ => ?_⟩⟩
      have less := length_drop_lt (Nat.pos_of_ne_zero more)
        (Nat.min_le_right (moved - sector % unit) (lent.buffer.length / sectorSize))
      exact ih _ (size ▸ less) _ _ still rfl

theorem read_keeps (stable : Stable kept) (disk : DiskHandle) (sector : Nat)
    (lent : Lent (Session σ)) (held : kept lent.state) :
    Action.Ends (read disk sector) lent (fun _ after => kept after.state)
      (fun _ after => kept after.state) (fun _ after => kept after.state) := by
  refine read_of_units (fun _ _ => held) fun drive _ _ _ _ => ?_
  refine (recordOf_keeps stable drive held).mono ?_ (fun _ _ still => still)
  intro record state still
  exact readUnits_keeps stable disk.name drive _ sector { lent with state } still

theorem writeStaged_keeps (stable : Stable kept) (drive : DriveNumber) (sector remaining : Nat)
    (held : kept session) : Keeps kept (writeStaged drive sector remaining) session := by
  induction remaining using Nat.strongRecOn generalizing sector session with
  | ind remaining ih =>
    by_cases done : remaining = 0
    · subst done
      exact writeStaged_done held
    · apply writeStaged_round done
      refine (transfer_keeps stable drive .write sector remaining held).with_run.mono ?_
        (fun _ _ still => still)
      rintro moved after ⟨run, still⟩
      have progress := transfer_moved (Nat.pos_of_ne_zero done) run
      refine ⟨fun _ => still, fun _ => still, fun _ _ => ?_⟩
      exact ih (remaining - moved) (by omega) _ (stable _ _ still (.exchanged after _))

theorem writePieces_keeps (stable : Stable kept) (drive : DriveNumber) (sector : Nat)
    (pieces : List Bytes) (held : kept session) :
    Keeps kept (writePieces drive sector pieces) session := by
  induction pieces generalizing sector session with
  | nil => exact held
  | cons piece rest ih =>
    have staged : Keeps kept (stage piece) session := by
      unfold Keeps Action.Ends stage
      cases session.channel.staging.put 0 piece with
      | ok staging => exact stable _ _ held (.exchanged session _)
      | error cause => exact held
    refine staged.bind fun _ _ still => ?_
    refine (writeStaged_keeps stable drive sector _ still).bind fun next _ still => ?_
    exact ih next still

theorem write_keeps (stable : Stable kept) (disk : DiskHandle) (sector : Nat) (bytes : Bytes)
    (held : kept session) : Keeps kept (write disk sector bytes) session := by
  refine write_of_pieces (fun _ _ => held) fun drive _ _ _ => ?_
  refine (recordOf_keeps stable drive held).mono ?_ (fun _ _ still => still)
  intro record after still
  exact ⟨fun _ => still, fun _ =>
    ⟨fun _ _ => still, fun _ => writePieces_keeps stable drive sector _ still⟩⟩

theorem openDisk_keeps (stable : Stable kept) (name : String) (held : kept session) :
    Keeps kept (openDisk name) session := by
  unfold openDisk Keeps
  rw [Action.ends_look_bind]
  refine Action.ends_check_bind (fun _ _ => held) fun drive _ => ?_
  exact (recordOf_keeps stable drive held).bind fun _ _ still => still

section Enumeration

variable {τ ε : Type} {pair : Session σ × τ}

theorem offerDrive_keeps (stable : Stable kept) (hook : Hook τ) (drive : DriveNumber)
    (held : kept pair.1) :
    Action.Ends (offerDrive hook drive : Action (Session σ × τ) ε Bool) pair
      (fun _ after => kept after.1) (fun _ after => kept after.1)
      (fun _ after => kept after.1) := by
  unfold offerDrive
  have met : Action.Ends (beside (Action.caught (recordOf drive)) :
      Action (Session σ × τ) ε (Except DiskError Geometry)) pair
      (fun _ after => kept after.1) (fun _ after => kept after.1)
      (fun _ after => kept after.1) := by
    rw [beside, Action.ends_onPart]
    exact .caught ((recordOf_keeps stable drive held).mono (fun _ _ still => still)
      (fun _ _ still => still))
  -- A hook is shown names only, so what it does leaves the session alone.
  have offer (name : String) {pair : Session σ × τ} (held : kept pair.1) :
      Action.Ends (hook.offer name : Action (Session σ × τ) ε Bool) pair
        (fun _ after => kept after.1) (fun _ after => kept after.1)
        (fun _ after => kept after.1) := held
  refine met.bind fun answer middle still => ?_
  cases answer with
  | error _ => exact still
  | ok _ =>
    refine (offer drive.name still).bind fun enough seen still => ?_
    cases enough with
    | true => exact still
    | false =>
      simp only [Bool.false_eq_true, ↓reduceIte]
      rw [Action.ends_look_bind]
      split
      · exact offer bootName still
      · exact still

theorem offerDrives_keeps (stable : Stable kept) (hook : Hook τ) (drives : List DriveNumber)
    (held : kept pair.1) :
    Action.Ends (offerDrives hook drives : Action (Session σ × τ) ε Bool) pair
      (fun _ after => kept after.1) (fun _ after => kept after.1)
      (fun _ after => kept after.1) := by
  induction drives generalizing pair with
  | nil => exact held
  | cons drive rest ih =>
    refine (offerDrive_keeps stable hook drive held).bind fun enough middle still => ?_
    cases enough with
    | true => exact still
    | false => exact ih still

theorem iterate_keeps (stable : Stable kept) (hook : Hook τ) (held : kept pair.1) :
    Action.Ends (iterate hook : Action (Session σ × τ) ε Bool) pair
      (fun _ after => kept after.1) (fun _ after => kept after.1)
      (fun _ after => kept after.1) := by
  unfold iterate
  rw [Action.ends_look_bind]
  refine (offerDrives_keeps stable hook _ held).bind fun enough middle still => ?_
  cases enough with
  | true => exact still
  | false =>
    refine Action.Ends.bind (?_ : Action.Ends _ middle (fun _ after => kept after.1)
      (fun _ after => kept after.1) (fun _ after => kept after.1)) ?_
    · exact stable _ _ still (.exchanged middle.1 _)
    · intro _ _ still
      exact offerDrives_keeps stable hook _ still

end Enumeration

/-- An operation that forgets no drive keeps what every such step keeps. -/
theorem Operation.keeps (stable : Stable kept) (operation : Operation σ)
    (remembers : operation.forgets? = none) (held : kept session) :
    kept (operation.run session).2 := by
  apply Action.Ends.left
  cases operation with
  | resolve drive => exact (recordOf_keeps stable drive held).bind fun _ _ still => still
  | openDisk name => exact (openDisk_keeps stable name held).bind fun _ _ still => still
  | iterate hook seen =>
    rw [Operation.run, Action.ends_onPart]
    exact (iterate_keeps stable hook held).bind fun _ _ still => still
  | read disk sector buffer =>
    rw [Operation.run, Action.ends_onPart]
    exact read_keeps stable disk sector { buffer, state := session } held
  | write disk sector bytes => exact write_keeps stable disk sector bytes held
  | transfer drive direction sector count =>
    exact (transfer_keeps stable drive direction sector count held).bind fun _ _ still => still
  | forget drive => cases remembers
  | disturb change => exact stable _ _ held (.exchanged session _)

end

end FirmwareDisk.Session
