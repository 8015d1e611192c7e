import FirmwareDisk.Proofs.Geometry.Agreement
import FirmwareDisk.Proofs.Geometry.Cache
import FirmwareDisk.Proofs.Medium.Requests
import FirmwareDisk.Proofs.Session.Pieces
import FirmwareDisk.Proofs.Session.Rounds

set_option autoImplicit false

namespace FirmwareDisk

theorem Bytes.slice_congr {first second : Bytes} {held offset length : Nat}
    (same : first.take held = second.take held) (inside : offset + length ≤ held) :
    slice first offset length = slice second offset length := by
  have shorter := congrArg (List.take (offset + length)) same
  rw [List.take_take, List.take_take, Nat.min_eq_left inside] at shorter
  rw [slice, slice, List.take_drop, List.take_drop, shorter]

namespace Session

/-- What stays the same throughout two runs with one drive. -/
structure Common (σ : Type) where
  number : DriveNumber
  alike : σ → σ → Prop
  settings : Settings
  opticalDrive : Option DriveNumber
  segment : UInt16

variable {σ : Type}

/-- A session with some settings, whose table has given records of all drives but one. -/
structure Beside (common : Common σ) (table : DriveNumber → Option Geometry)
    (session : Session σ) : Prop where
  settings : session.settings = common.settings
  opticalDrive : session.opticalDrive = common.opticalDrive
  distinct : session.cache.Distinct
  others : ∀ other, other ≠ common.number → session.cache.get? other = table other

/-- Two sessions that look the same to whoever works with one drive, and of whose staging buffers
the first `held` bytes are the same. The records of the other drives are those of `left` and `right`. -/
structure Twins (common : Common σ) (left right : DriveNumber → Option Geometry) (held : Nat)
    (first second : Session σ) : Prop where
  here : Beside common left first
  there : Beside common right second
  channel : first.channel.Alike common.alike common.segment held second.channel
  record : first.cache.get? common.number = second.cache.get? common.number

/-- A session that has met its drive. -/
def Met (common : Common σ) (session : Session σ) : Prop :=
  ∃ record, session.cache.get? common.number = some record

variable {common : Common σ} {left right : DriveNumber → Option Geometry} {held : Nat}
  {first second : Session σ}

section Changes

variable {session : Session σ} {table : DriveNumber → Option Geometry}

theorem Beside.insert (beside : Beside common table session) (channel : Channel σ)
    {record : Geometry} (own : record.drive = common.number) :
    Beside common table { session with channel, cache := session.cache.insert record } where
  settings := beside.settings
  opticalDrive := beside.opticalDrive
  distinct := beside.distinct.insert record
  others other apart := by
    have different : record.drive ≠ other := fun same => apart (same.symm.trans own)
    rw [GeometryCache.get?_insert_other different]
    exact beside.others other apart

theorem Beside.forget (beside : Beside common table session) :
    Beside common table (session.forget common.number).2 := by
  rw [forget_eq]
  refine ⟨beside.settings, beside.opticalDrive, beside.distinct.erase common.number, ?_⟩
  intro other apart
  exact (GeometryCache.get?_erase_of_ne session.cache apart.symm).trans (beside.others other apart)

theorem Beside.exchanged (beside : Beside common table session) (channel : Channel σ) :
    Beside common table { session with channel } :=
  ⟨beside.settings, beside.opticalDrive, beside.distinct, beside.others⟩

theorem Twins.shorten {less : Nat} (twins : Twins common left right held first second)
    (within : less ≤ held) : Twins common left right less first second :=
  ⟨twins.here, twins.there, twins.channel.shorten within, twins.record⟩

theorem Twins.exchanged {kept : Nat} {one two : Channel σ}
    (twins : Twins common left right held first second)
    (same : one.Alike common.alike common.segment kept two) :
    Twins common left right kept { first with channel := one } { second with channel := two } :=
  ⟨twins.here.exchanged one, twins.there.exchanged two, same, twins.record⟩

theorem Twins.recorded {kept : Nat} {one two : Channel σ} {record : Geometry}
    (twins : Twins common left right held first second) (own : record.drive = common.number)
    (same : one.Alike common.alike common.segment kept two) :
    Twins common left right kept
      { first with channel := one, cache := first.cache.insert record }
      { second with channel := two, cache := second.cache.insert record } where
  here := twins.here.insert one own
  there := twins.there.insert two own
  channel := same
  record := by
    rw [GeometryCache.get?_insert_own own, GeometryCache.get?_insert_own own]

theorem Twins.forget (twins : Twins common left right held first second) :
    (first.forget common.number).1 = (second.forget common.number).1 ∧
      Twins common left right held (first.forget common.number).2
        (second.forget common.number).2 := by
  have here := twins.here.forget
  have there := twins.there.forget
  rw [forget_eq] at here there ⊢
  rw [forget_eq]
  exact ⟨twins.record, here, there, twins.channel,
    (twins.here.distinct.get?_erase common.number).trans
      (twins.there.distinct.get?_erase common.number).symm⟩

/-- Twins that hold sectors to be written hold the rest of them after some were. -/
theorem Twins.advance {moved remaining : Nat}
    (twins : Twins common left right (remaining * sectorSize) first second)
    (less : moved ≤ remaining) (room : remaining ≤ Staging.sectors) :
    Twins common left right ((remaining - moved) * sectorSize)
      (advance moved (remaining - moved) first) (advance moved (remaining - moved) second) := by
  refine twins.exchanged ⟨twins.channel.firmware, twins.channel.here, twins.channel.there, ?_⟩
  have front := data_advance first less room
  have back := data_advance second less room
  rw [twins.channel.staged, ← back] at front
  exact front

end Changes

variable [Firmware σ]

/-- A drive is met in the same way. If it was met before, which it has to be when bytes are held to
be written, nothing happens to the staging buffers. -/
theorem recordOf_shared_agrees (services : Firmware.Alike common.number common.alike)
    (direction : Direction) (met : direction = .write → Met common first)
    (twins : Twins common left right (direction.shared held 0) first second) :
    Action.Agrees (recordOf common.number) first second
      (fun record one two => Twins common left right (direction.shared held 0) one two ∧
        one.cache.get? common.number = some record)
      (Twins common left right (direction.shared held 0)) := by
  cases cached : first.cache.get? common.number with
  | some record =>
    have again := twins.record.symm.trans cached
    exact .ok (recordOf_cached cached) (recordOf_cached again) ⟨twins, cached⟩
  | none =>
    cases direction with
    | write =>
      obtain ⟨record, known⟩ := met rfl
      rw [cached] at known
      cases known
    | read =>
      have optical := twins.here.opticalDrive.trans twins.there.opticalDrive.symm
      refine Action.agrees_look_bind twins.record ?_
      rw [cached]
      refine Action.agrees_look_bind optical ?_
      have probed : Action.Agrees (onChannel (Geometry.probe common.number first.opticalDrive))
          first second
          (fun record one two => record.drive = common.number ∧ Twins common left right 0 one two)
          (Twins common left right 0) :=
        .onPart ((Geometry.probe_agrees services first.opticalDrive twins.channel).mono
          (fun _ _ _ done => ⟨done.1, twins.exchanged done.2⟩)
          (fun _ _ failed => twins.exchanged failed))
      refine probed.bind ?_
      rintro record one two ⟨own, still⟩
      refine .ok rfl rfl ⟨still.recorded own still.channel, ?_⟩
      rw [GeometryCache.get?_insert_own own]

theorem recordOf_agrees (services : Firmware.Alike common.number common.alike)
    (twins : Twins common left right 0 first second) :
    Action.Agrees (recordOf common.number) first second
      (fun record one two => Twins common left right 0 one two ∧
        one.cache.get? common.number = some record)
      (Twins common left right 0) :=
  @recordOf_shared_agrees σ common left right 0 first second _ services .read nofun twins

/-- A transfer goes the same way in twins, and leaves its drive met. -/
theorem transfer_agrees (services : Firmware.Alike common.number common.alike)
    {direction : Direction} (sector count : Nat)
    (met : direction = .write → Met common first)
    (inside : direction = .write → count * sectorSize ≤ held)
    (twins : Twins common left right (direction.shared held 0) first second) :
    Action.Agrees (transfer common.number direction sector count) first second
      (fun moved one two =>
        Twins common left right (direction.shared held (moved * sectorSize)) one two ∧
          Met common one)
      (Twins common left right (direction.shared held 0)) := by
  refine (recordOf_shared_agrees services direction met twins).bind ?_
  rintro record one two ⟨still, cached⟩
  have own := (GeometryCache.get?_some cached).2
  refine Action.agrees_look_bind (still.here.settings.trans still.there.settings.symm) ?_
  have link : Link.Alike common.alike common.segment common.number (direction.shared held 0)
      { record, channel := one.channel } { record, channel := two.channel } :=
    ⟨rfl, own, still.channel⟩
  refine .onPart ((FirmwareDisk.transfer_agrees services one.settings sector count inside
    link).mono ?_ ?_)
  · rintro moved ⟨settled, front⟩ ⟨other, back⟩ ⟨same, own, done⟩
    dsimp only at same own done ⊢
    subst same
    refine ⟨still.recorded own done, settled, ?_⟩
    rw [GeometryCache.get?_insert_own own]
  · rintro ⟨settled, front⟩ ⟨other, back⟩ ⟨same, own, failed⟩
    dsimp only at same own failed ⊢
    subst same
    exact still.recorded own failed

section Read

/-- Twins that serve requests with the same bytes in their buffers. -/
def LentTwins (common : Common σ) (left right : DriveNumber → Option Geometry)
    (first second : Lent (Session σ)) : Prop :=
  first.buffer = second.buffer ∧ Twins common left right 0 first.state second.state

/-- A read passes on nothing of the staging buffer but what its transfers have read. -/
theorem readUnits_agrees (services : Firmware.Alike common.number common.alike) (device : String)
    (unit sector : Nat) {first second : Lent (Session σ)}
    (same : LentTwins common left right first second) :
    Action.Agrees (readUnits device common.number unit sector) first second
      (fun _ => LentTwins common left right) (LentTwins common left right) := by
  generalize size : first.buffer.length = total
  induction total using Nat.strongRecOn generalizing sector first second with
  | ind total ih =>
    obtain ⟨buffer, first⟩ := first
    obtain ⟨other, second⟩ := second
    obtain ⟨equal, twins⟩ := same
    dsimp only at equal twins size
    subst equal
    by_cases more : buffer.length / sectorSize = 0
    · have nothing (state : Session σ) :
          readUnits device common.number unit sector { buffer, state } =
            (.ok (), { buffer, state }) := by
        rw [readUnits]
        simp only [more, ↓reduceIte]
      exact .ok (nothing first) (nothing second) ⟨rfl, twins⟩
    have moving := @transfer_agrees σ common left right 0 first second _ services .read
      (sector - sector % unit)
      ((sector % unit + buffer.length / sectorSize + (unit - 1)) / unit * unit)
      (fun write => by cases write) (fun write => by cases write) twins
    -- What ends a round is the number of sectors moved, so both runs end theirs at the same place.
    cases moving with
    | error run again failed =>
      exact .error (readUnits_of_error more run) (readUnits_of_error more again) ⟨rfl, failed⟩
    | fault run again failed =>
      exact .fault (readUnits_of_fault more run) (readUnits_of_fault more again) ⟨rfl, failed⟩
    | @ok moved one two run again done =>
      have still := done.1.shorten (Nat.zero_le _)
      have front := @readUnits_of_ok _ _ device _ _ _ _ _ _ _ more run
      have back := @readUnits_of_ok _ _ device _ _ _ _ _ _ _ more again
      dsimp only at front back
      by_cases empty : min (moved - sector % unit) (buffer.length / sectorSize) = 0
      · rw [if_pos empty] at front back
        exact .error front back ⟨rfl, still⟩
      rw [if_neg empty] at front back
      by_cases far : Staging.sectors <
          sector % unit + min (moved - sector % unit) (buffer.length / sectorSize)
      · rw [if_pos far] at front back
        exact .fault front back ⟨rfl, still⟩
      rw [if_neg far] at front back
      by_cases last :
          UInt64.size ≤ sector + min (moved - sector % unit) (buffer.length / sectorSize)
      · rw [if_pos last] at front back
        exact .fault front back ⟨rfl, still⟩
      rw [if_neg last] at front back
      generalize taken : min (moved - sector % unit) (buffer.length / sectorSize) = length at *
      have inside : sector % unit * sectorSize + length * sectorSize ≤ moved * sectorSize := by
        rw [← Nat.add_mul]
        exact Nat.mul_le_mul_right sectorSize (by omega)
      -- The buffer gets only bytes that were just read, and on those the two agree.
      have piece := Bytes.slice_congr done.1.channel.staged inside
      have less : (buffer.drop (length * sectorSize)).length < total :=
        size ▸ length_drop_lt (Nat.pos_of_ne_zero empty) (by omega)
      have rest := ih _ less (sector + length)
        (⟨rfl, still⟩ : LentTwins common left right
          { buffer := buffer.drop (length * sectorSize), state := one }
          { buffer := buffer.drop (length * sectorSize), state := two }) rfl
      rw [← piece] at back
      refine (rest.mono ?_ ?_).through
        (fun after => { after with
          buffer := Bytes.slice one.channel.staging.data (sector % unit * sectorSize)
            (length * sectorSize) ++ after.buffer })
        (fun after => { after with
          buffer := Bytes.slice one.channel.staging.data (sector % unit * sectorSize)
            (length * sectorSize) ++ after.buffer }) front back
      · rintro _ after last ⟨equal, left⟩
        exact ⟨by rw [equal], left⟩
      · rintro after last ⟨equal, left⟩
        exact ⟨by rw [equal], left⟩

theorem read_agrees (services : Firmware.Alike common.number common.alike) {disk : DiskHandle}
    (handle : driveBehind disk = .ok common.number) (sector : Nat) {first second : Lent (Session σ)}
    (same : LentTwins common left right first second) :
    Action.Agrees (read disk sector) first second
      (fun _ => LentTwins common left right) (LentTwins common left right) := by
  unfold read
  refine Action.agrees_check_bind same ?_
  intro drive found
  cases handle.symm.trans found
  refine Action.agrees_look_bind (congrArg List.length same.1) ?_
  refine Action.agrees_check_bind same ?_
  intro count _
  refine Action.agrees_check_bind same ?_
  intro _ _
  have met : Action.Agrees (Lent.aside (recordOf common.number)) first second
      (fun _ => LentTwins common left right) (LentTwins common left right) :=
    .onPart ((recordOf_agrees services same.2).mono
      (fun _ _ _ done => ⟨same.1, done.1⟩) (fun _ _ failed => ⟨same.1, failed⟩))
  refine met.bind ?_
  intro record one two still
  refine Action.agrees_look_bind (still.2.here.settings.trans still.2.there.settings.symm) ?_
  exact readUnits_agrees services disk.name _ sector still

end Read

section Write

/-- What is written is what was held in both staging buffers. -/
theorem writeStaged_agrees (services : Firmware.Alike common.number common.alike)
    (sector remaining : Nat) {first second : Session σ} (met : Met common first)
    (twins : Twins common left right (remaining * sectorSize) first second) :
    Action.Agrees (writeStaged common.number sector remaining) first second
      (fun _ one two => Twins common left right 0 one two ∧ Met common one)
      (Twins common left right 0) := by
  induction remaining using Nat.strongRecOn generalizing sector first second with
  | ind remaining ih =>
    by_cases more : remaining = 0
    · subst more
      have nothing (session : Session σ) :
          writeStaged common.number sector 0 session = (.ok sector, session) := by
        rw [writeStaged]
        rfl
      rw [Nat.zero_mul] at twins
      exact .ok (nothing first) (nothing second) ⟨twins, met⟩
    have moving := @transfer_agrees σ common left right (remaining * sectorSize) first second _
      services .write sector remaining (fun _ => met) (fun _ => Nat.le_refl _) twins
    have front := @writeStaged_eq _ _ common.number sector remaining first more
    have back := @writeStaged_eq _ _ common.number sector remaining second more
    cases moving with
    | error run again failed =>
      rw [run] at front
      rw [again] at back
      exact .error front back (failed.shorten (Nat.zero_le _))
    | fault run again failed =>
      rw [run] at front
      rw [again] at back
      exact .fault front back (failed.shorten (Nat.zero_le _))
    | @ok moved one two run again done =>
      obtain ⟨still, known⟩ := done
      have bounds := transfer_moved (Nat.pos_of_ne_zero more) run
      rw [run] at front
      rw [again] at back
      dsimp only at front back
      by_cases far : UInt64.size ≤ sector + moved
      · rw [if_pos far] at front back
        exact .fault front back (still.shorten (Nat.zero_le _))
      rw [if_neg far] at front back
      by_cases many : Staging.sectors < remaining
      · rw [if_pos many] at front back
        exact .fault front back (still.shorten (Nat.zero_le _))
      rw [if_neg many] at front back
      have advanced := still.advance bounds.2 (Nat.not_lt.mp many)
      have met : Met common (advance moved (remaining - moved) one) := known
      exact (ih (remaining - moved) (by omega) (sector + moved) met advanced).of_run front back

theorem writePieces_agrees (services : Firmware.Alike common.number common.alike)
    (sector : Nat) (pieces : List Bytes)
    (whole : ∀ piece ∈ pieces, ∃ length ≤ Staging.sectors, piece.length = length * sectorSize)
    {first second : Session σ} (met : Met common first)
    (twins : Twins common left right 0 first second) :
    Action.Agrees (writePieces common.number sector pieces) first second
      (fun _ => Twins common left right 0) (Twins common left right 0) := by
  induction pieces generalizing sector first second with
  | nil => exact Action.agrees_pure twins
  | cons piece rest ih =>
    obtain ⟨length, room, size⟩ := whole piece List.mem_cons_self
    have count : piece.length / sectorSize = length := by
      rw [size, Nat.mul_div_cancel _ (by decide)]
    have fits : piece.length ≤ Staging.byteSize := size ▸ Staging.mul_le_byteSize room
    have staged (session : Session σ) :
        (session.channel.staging.fill 0 piece).data.take (length * sectorSize) = piece := by
      rw [← size]
      exact session.channel.staging.take_fill piece fits
    have stagings : Action.Agrees (stage piece) first second
        (fun _ one two => Twins common left right (length * sectorSize) one two ∧ Met common one)
        (Twins common left right 0) := by
      refine .ok (stage_eq first size room) (stage_eq second size room) ⟨?_, met⟩
      exact twins.exchanged ⟨twins.channel.firmware, twins.channel.here, twins.channel.there,
        (staged first).trans (staged second).symm⟩
    rw [writePieces, count]
    refine stagings.bind ?_
    rintro _ one two ⟨still, known⟩
    refine (writeStaged_agrees services sector length known still).bind ?_
    rintro next one two ⟨done, known⟩
    exact ih next (fun piece member => whole piece (List.mem_cons_of_mem _ member)) known done

theorem write_agrees (services : Firmware.Alike common.number common.alike) {disk : DiskHandle}
    (handle : driveBehind disk = .ok common.number) (sector : Nat) (bytes : Bytes)
    {first second : Session σ} (twins : Twins common left right 0 first second) :
    Action.Agrees (write disk sector bytes) first second
      (fun _ => Twins common left right 0) (Twins common left right 0) := by
  unfold write
  refine Action.agrees_check_bind twins ?_
  intro drive found
  cases handle.symm.trans found
  refine Action.agrees_check_bind twins ?_
  intro count counted
  refine (recordOf_agrees services twins).bind ?_
  rintro record one two ⟨still, cached⟩
  cases record.optical with
  | true => exact Action.agrees_refuse still
  | false =>
    refine Action.agrees_check_bind still ?_
    intro _ _
    exact writePieces_agrees services sector (writtenPieces bytes)
      (fun piece member => writtenPieces_sectors (sectorCount_ok counted) member) ⟨record, cached⟩
      still

end Write

/-- Opening a disk takes nothing from the session but its settings and its optical drive. -/
theorem openDisk_agrees (services : Firmware.Alike common.number common.alike) {name : String}
    (named : driveNamed common.settings.bootDrive name = .ok common.number)
    (twins : Twins common left right 0 first second) :
    Action.Agrees (openDisk name) first second (fun _ => Twins common left right 0)
      (Twins common left right 0) := by
  let handle (record : Geometry) : DiskHandle := {
    name
    backend := backendName
    id := common.number.toNat
    totalSectors := record.totalSectors
    hasPartitions := common.opticalDrive ≠ some common.number }
  have opening : Action.Agrees (recordOf common.number >>= fun record => pure (handle record))
      first second (fun _ => Twins common left right 0) (Twins common left right 0) :=
    (recordOf_agrees services twins).bind fun _ _ _ done => Action.agrees_pure done.1
  have step {table : DriveNumber → Option Geometry} {session : Session σ}
      (beside : Beside common table session) :
      openDisk name session = (recordOf common.number >>= fun record => pure (handle record))
        session := by
    rw [openDisk, Action.look_bind, id, beside.settings, beside.opticalDrive,
      Action.bind_of_ok (Action.check_of_ok named session)]
  exact opening.of_run (step twins.here) (step twins.there)

end Session

end FirmwareDisk
