import FirmwareDisk.Proofs.Machine.Arithmetic
import FirmwareDisk.Proofs.Session.Operations
import FirmwareDisk.Proofs.Transfer.Lowering

set_option autoImplicit false

namespace FirmwareDisk.Session

variable {σ : Type}

section Numbers

/-- The sectors of the units that hold those of a request and the ones in front of them. -/
def wanted64 (unit skip remaining : Nat) : Option Nat := do
  let reach ← add64 skip remaining
  let units ← ceilDiv64 reach unit
  mul64 units unit

/-- Some sectors of the staging buffer in bytes: where they begin, and how long they are. -/
def region64 (first length : Nat) : Option (Nat × Nat) := do
  let start ← mul64 first sectorSize
  let bytes ← mul64 length sectorSize
  let _ ← add64 start bytes
  return (start, bytes)

/-- Where a request goes on after some of its sectors, and with how many. -/
def advance64 (sector remaining length : Nat) : Option (Nat × Nat) := do
  let next ← add64 sector length
  let rest ← sub64 remaining length
  return (next, rest)

variable {unit skip first sector remaining length : Nat}

theorem wanted64_eq (positive : 0 < unit) (fits : skip + remaining + unit < UInt64.size) :
    wanted64 unit skip remaining = some ((skip + remaining + (unit - 1)) / unit * unit) := by
  have whole := Nat.div_mul_le_self (skip + remaining + (unit - 1)) unit
  have reach : skip + remaining < UInt64.size := by omega
  have product : (skip + remaining + (unit - 1)) / unit * unit < UInt64.size := by omega
  simp only [wanted64, add64_of_lt reach, ceilDiv64_of_lt positive reach, mul64_of_lt product,
    Option.bind_eq_bind, Option.bind_some]

theorem region64_eq (inside : first + length ≤ Staging.sectors) :
    region64 first length = some (first * sectorSize, length * sectorSize) := by
  have most := Staging.mul_le_byteSize inside
  rw [Nat.add_mul, Staging.byteSize_eq] at most
  have limit : UInt64.size = 0x10000000000000000 := rfl
  have sum : first * sectorSize + length * sectorSize < UInt64.size := by omega
  have start := Nat.lt_of_le_of_lt (Nat.le_add_right _ _) sum
  have bytes := Nat.lt_of_le_of_lt (Nat.le_add_left _ _) sum
  simp only [region64, mul64_of_lt start, mul64_of_lt bytes, add64_of_lt sum, Option.bind_eq_bind,
    Option.bind_some, Option.pure_def]

theorem advance64_eq (fits : sector + length < UInt64.size) (less : length ≤ remaining) :
    advance64 sector remaining length = some (sector + length, remaining - length) := by
  simp only [advance64, add64_of_lt fits, sub64_of_le less, Option.bind_eq_bind, Option.bind_some,
    Option.pure_def]

end Numbers

/-- A session that has met a drive, which is read in such units. -/
structure Ready (session : Session σ) (drive : DriveNumber) (unit : Nat) : Prop where
  sound : session.Sound
  met : ∃ record, session.cache.get? drive = some record ∧ readUnit session.settings record = unit

namespace Ready

variable {session : Session σ} {drive : DriveNumber} {unit : Nat}

theorem channel (ready : session.Ready drive unit) (channel : Channel σ) :
    Ready { session with channel } drive unit :=
  ⟨ready.sound.channel channel, ready.met⟩

theorem advance (ready : session.Ready drive unit) (count remaining : Nat) :
    (session.advance count remaining).Ready drive unit :=
  ready.channel _

theorem unit_bounds (ready : session.Ready drive unit) : 0 < unit ∧ unit ≤ 8 := by
  obtain ⟨record, -, rfl⟩ := ready.met
  unfold readUnit
  split
  · exact Transfer.opticalSpan_bounds ready.sound.valid
  · decide

end Ready

variable [Firmware σ]

/-- Moves sectors between a drive and the staging buffer. -/
def transfer64 (drive : DriveNumber) (direction : Direction) (sector count : Nat) :
    Checked (Session σ) DiskError Nat := do
  let record ← .run (recordOf drive)
  let settings ← .run (Action.look settings)
  .onPart (fun session => { record, channel := session.channel })
    (fun link session =>
      { session with channel := link.channel, cache := session.cache.insert link.record })
    (FirmwareDisk.transfer64 settings direction sector count)

/-- Fills a buffer of whole sectors. -/
def readUnits64 (device : String) (drive : DriveNumber) (unit sector : Nat) :
    Checked (Lent (Session σ)) DiskError Unit := fun lent =>
  let remaining := lent.buffer.length / sectorSize
  if remaining = 0 then some (.ok (), lent)
  else do
    let skip := sector % unit
    let wanted ← wanted64 unit skip remaining
    let start ← sub64 sector skip
    match ← transfer64 drive .read start wanted lent.state with
    | (.error cause, state) => some (.error cause, { lent with state })
    | (.fault reason, state) => some (.fault reason, { lent with state })
    | (.ok moved, state) =>
      let length := min (moved - skip) remaining
      if length = 0 then some (.error (.readFailed device), { lent with state })
      else if Staging.sectors < skip + length then some (.fault .outsideBuffer, { lent with state })
      else do
        let (first, bytes) ← region64 skip length
        let (next, _) ← advance64 sector remaining length
        let piece := Bytes.slice state.channel.staging.data first bytes
        let (outcome, after) ← readUnits64 device drive unit next
          { buffer := lent.buffer.drop (length * sectorSize), state }
        some (outcome, { after with buffer := piece ++ after.buffer })
termination_by lent => lent.buffer.length
decreasing_by
  rename_i nothing _
  exact length_drop_lt (Nat.pos_of_ne_zero nothing) (Nat.min_le_right _ _)

/-- Reads sectors of a disk. -/
def read64 (disk : DiskHandle) (sector : Nat) : Checked (Lent (Session σ)) DiskError Unit := do
  let drive ← .run (liftM (driveBehind disk))
  let length ← .run (Action.look fun lent => lent.buffer.length)
  let count ← .run (liftM (sectorCount length))
  .run (liftM (checkRequest disk sector count))
  let record ← .run (Lent.aside (recordOf drive))
  let settings ← .run (Action.look fun lent => lent.state.settings)
  let span ← .compute settings.opticalSpan64
  readUnits64 disk.name drive (if record.optical then span else 1) sector

/-- Writes the first sectors of the staging buffer. A round that writes nothing would not come to an
end. -/
def writeStaged64 (drive : DriveNumber) (sector remaining : Nat) :
    Checked (Session σ) DiskError Nat := fun session =>
  if remaining = 0 then some (.ok sector, session)
  else do
    match ← transfer64 drive .write sector remaining session with
    | (.error cause, after) => some (.error cause, after)
    | (.fault reason, after) => some (.fault reason, after)
    | (.ok moved, after) =>
      if moved = 0 then none
      else do
        let (next, rest) ← advance64 sector remaining moved
        let _ ← region64 moved rest
        if Staging.sectors < remaining then some (.fault .outsideBuffer, after)
        else
          writeStaged64 drive next (remaining - moved) (advance moved (remaining - moved) after)
termination_by remaining
decreasing_by omega

/-- Writes pieces of whole sectors one after the other. -/
def writePieces64 (drive : DriveNumber) : Nat → List Bytes → Checked (Session σ) DiskError Unit
  | _, [] => pure ()
  | sector, piece :: rest => do
    .run (stage piece)
    let next ← writeStaged64 drive sector (piece.length / sectorSize)
    writePieces64 drive next rest

/-- Writes sectors of a disk. -/
def write64 (disk : DiskHandle) (sector : Nat) (bytes : Bytes) :
    Checked (Session σ) DiskError Unit := do
  let drive ← .run (liftM (driveBehind disk))
  let count ← .run (liftM (sectorCount bytes.length))
  let record ← .run (recordOf drive)
  if record.optical then .run (Action.refuse (.readOnly disk.name))
  else do
    .run (liftM (checkRequest disk sector count))
    writePieces64 drive sector (writtenPieces bytes)

theorem Sound.transfer64_fits {session : Session σ} (sound : session.Sound) (drive : DriveNumber)
    (direction : Direction) (sector count : Nat) :
    (transfer64 drive direction sector count).Fits (transfer drive direction sector count)
      session := by
  apply (Checked.fits_run _ session).bind
  intro record after met
  obtain ⟨still, -, known⟩ := (recordOf_safe drive sound).of_ok met
  apply Checked.Fits.look
  exact .onPart (FirmwareDisk.transfer64_fits still.valid direction sector count _ known.cap.2)

theorem Ready.of_met {session after : Session σ} {drive : DriveNumber} {record : Geometry}
    (sound : session.Sound) (met : recordOf drive session = (.ok record, after)) :
    after.Ready drive (readUnit after.settings record) :=
  ⟨((recordOf_safe drive sound).of_ok met).1, record,
    ((recordOf_recorded drive session).of_ok met).1, rfl⟩

namespace Ready

variable {drive : DriveNumber} {unit sector : Nat}

/-- A transfer that begins with a unit ends within 64 bits. A fault is one of the legacy service, to
which only low sectors are named. -/
theorem transfer_ends {session : Session Machine} (ready : session.Ready drive unit)
    (direction : Direction) (small : sector < UInt64.size) (count : Nat) :
    Action.Ends (transfer drive direction sector count) session
      (fun moved after => after.Ready drive unit ∧ moved ≤ 127 ∧
        (sector % unit = 0 → sector + moved < UInt64.size))
      (fun _ _ => True) (fun _ _ => sector ≤ Geometry.addressableSectors) := by
  obtain ⟨record, cached, same⟩ := ready.met
  obtain ⟨member, number⟩ := GeometryCache.get?_some cached
  have known := ready.sound.records record member
  let link : Link Machine := { record, channel := session.channel }
  have inside := transfer_inside ready.sound.valid direction count link known.cap.2 small
  have sound := transfer_sound ready.sound.valid direction sector count link known
  have settled := (transfer_lowers session.settings direction sector count link
    ⟨known.cap.1, known.chsCap.1⟩).settled
  apply transfer_of_cached cached
  refine .intro ?_ (fun _ _ _ => trivial) (fun _ _ run => inside.of_fault run)
  intro moved after run
  rw [run] at settled
  obtain ⟨few, still⟩ := sound.of_ok run
  refine ⟨⟨ready.sound.insert after.channel still, after.record, ?_, ?_⟩, few, ?_⟩
  · rw [GeometryCache.get?_insert_own (settled.drive.trans number)]
  · rw [← same, readUnit, readUnit, settled.optical]
  · intro aligned
    have reached := inside.of_ok run
    unfold Transfer.origin at reached
    split at reached
    · rename_i optical
      rw [readUnit, if_pos optical] at same
      rwa [same, Nat.div_mul_cancel (Nat.dvd_of_mod_eq_zero aligned)] at reached
    · exact reached

section Read

variable {lent : Lent (Session Machine)}

/-- A round begins with a unit, so what it hands on ends within 64 bits. -/
theorem round_ends {session : Session Machine} (ready : session.Ready drive unit)
    (small : sector < UInt64.size) (count : Nat) :
    Action.Ends (transfer drive .read (sector - sector % unit) count) session
      (fun moved after => after.Ready drive unit ∧ moved ≤ 127 ∧
        ∀ length ≤ moved - sector % unit, sector + length < UInt64.size)
      (fun _ _ => True) (fun _ _ => sector ≤ Geometry.addressableSectors + unit) := by
  have skip := Nat.mod_lt sector ready.unit_bounds.1
  have back := Nat.mod_le sector unit
  have whole : (sector - sector % unit) % unit = 0 :=
    Nat.sub_mod_eq_zero_of_mod_eq (Nat.mod_mod sector unit).symm
  have start : sector - sector % unit < UInt64.size := by omega
  have moving := ready.transfer_ends .read start count
  refine .intro ?_ (fun _ _ _ => trivial) ?_
  · intro moved after run
    obtain ⟨still, few, inside⟩ := moving.of_ok run
    have reached := inside whole
    exact ⟨still, few, fun length less => by omega⟩
  · intro _ _ run
    have begun := moving.of_fault run
    omega

/-- A read that succeeds ends within 64 bits. One that faults has begun where sectors are named by
address. -/
theorem readUnits_ends (ready : lent.state.Ready drive unit) (device : String)
    (small : sector < UInt64.size) :
    Action.Ends (readUnits device drive unit sector) lent
      (fun _ _ => sector + lent.buffer.length / sectorSize < UInt64.size) (fun _ _ => True)
      (fun _ _ => sector ≤ Geometry.addressableSectors + unit) := by
  generalize size : lent.buffer.length = total
  induction total using Nat.strongRecOn generalizing sector lent with
  | ind total ih =>
    by_cases done : lent.buffer.length / sectorSize = 0
    · refine readUnits_done done ?_
      rwa [← size, done]
    have skip := Nat.mod_lt sector ready.unit_bounds.1
    have moving := ready.round_ends small
      ((sector % unit + lent.buffer.length / sectorSize + (unit - 1)) / unit * unit)
    apply readUnits_round done
    refine .intro ?_ (fun _ _ _ => trivial) (fun _ _ run => moving.of_fault run)
    · intro moved state run length same
      obtain ⟨still, short, reached⟩ := moving.of_ok run
      -- The round ended within 64 bits, so the next one may begin there.
      have inside := reached length (by omega)
      have sectors : Staging.sectors = 128 := rfl
      refine ⟨fun _ => trivial, fun more =>
        ⟨fun far => by omega, fun far => by omega, fun _ _ => ?_⟩⟩
      have less : (lent.buffer.drop (length * sectorSize)).length < total :=
        size ▸ length_drop_lt (Nat.pos_of_ne_zero more) (by omega)
      have rest := @ih _ less _ ⟨_, state⟩ still inside rfl
      have left : (lent.buffer.drop (length * sectorSize)).length / sectorSize =
          total / sectorSize - length := by
        rw [List.length_drop, size, sectorSize]
        omega
      rw [left] at rest
      rw [size] at same
      refine .intro (fun _ _ run => ?_) (fun _ _ _ => trivial) (fun _ _ run => ?_)
      · have ended := rest.of_ok run
        omega
      · have begun := rest.of_fault run
        omega

/-- The arithmetic of a read fits, wherever it begins. -/
theorem readUnits64_fits (ready : lent.state.Ready drive unit) (device : String)
    (small : sector < UInt64.size) (short : lent.buffer.length < UInt64.size) :
    (readUnits64 device drive unit sector).Fits (readUnits device drive unit sector) lent := by
  generalize size : lent.buffer.length = total at short
  induction total using Nat.strongRecOn generalizing sector lent with
  | ind total ih =>
    obtain ⟨buffer, session⟩ := lent
    dsimp only at ready size
    obtain ⟨positive, few⟩ := ready.unit_bounds
    have skip := Nat.mod_lt sector positive
    have limit : UInt64.size = 0x10000000000000000 := rfl
    unfold Checked.Fits
    rw [readUnits64]
    by_cases done : buffer.length / sectorSize = 0
    · rw [readUnits_of_nothing done]
      simp only [done, ↓reduceIte]
    have sectors : buffer.length / sectorSize ≤ buffer.length / 2 :=
      Nat.div_le_div_left (by decide) (by decide)
    have fits : sector % unit + buffer.length / sectorSize + unit < UInt64.size := by omega
    have wanted := wanted64_eq positive fits
    generalize counted :
      (sector % unit + buffer.length / sectorSize + (unit - 1)) / unit * unit = count at wanted
    have moving := ready.round_ends small count
    have moved : transfer64 drive .read (sector - sector % unit) count session = some _ :=
      ready.sound.transfer64_fits drive .read (sector - sector % unit) count
    simp only [done, wanted, sub64_of_le (Nat.mod_le sector unit), moved, Option.bind_eq_bind,
      Option.bind_some, ↓reduceIte]
    -- All that a round computes before its transfer fits, so both runs make the same one.
    rcases run : transfer drive .read (sector - sector % unit) count session with
      ⟨moved | cause | reason, after⟩ <;> rw [← counted] at run
    · obtain ⟨still, -, reached⟩ := moving.of_ok (counted ▸ run)
      rw [readUnits_of_ok done run]
      dsimp only
      generalize taken : min (moved - sector % unit) (buffer.length / sectorSize) = length
      have inside := reached length (by omega)
      split
      · rfl
      rename_i progress
      split
      · rfl
      rename_i room
      rw [if_neg (Nat.not_le.mpr inside)]
      have less : (buffer.drop (length * sectorSize)).length < total :=
        size ▸ length_drop_lt (Nat.pos_of_ne_zero progress) (by omega)
      have rest : readUnits64 device drive unit (sector + length) _ = some _ :=
        @ih _ less _ ⟨_, after⟩ still inside rfl (Nat.lt_trans less short)
      have part : length ≤ buffer.length / sectorSize := by omega
      simp only [region64_eq (Nat.not_lt.mp room), advance64_eq inside part, rest,
        Option.bind_some]
    · rw [readUnits_of_error done run]
    · rw [readUnits_of_fault done run]

end Read

section Write

variable {session : Session Machine} {remaining : Nat}

/-- A write of staged sectors that succeeds ends within 64 bits. -/
theorem writeStaged_ends (ready : session.Ready drive 1) (small : sector < UInt64.size)
    (room : remaining ≤ Staging.sectors) :
    Action.Ends (writeStaged drive sector remaining) session
      (fun next after => after.Ready drive 1 ∧ next = sector + remaining ∧ next < UInt64.size)
      (fun _ _ => True) (fun _ _ => sector ≤ Geometry.addressableSectors) := by
  induction remaining using Nat.strongRecOn generalizing sector session with
  | ind remaining ih =>
    by_cases done : remaining = 0
    · subst done
      exact writeStaged_done ⟨ready, rfl, small⟩
    have moving := ready.transfer_ends .write small remaining
    apply writeStaged_round done
    refine .intro ?_ (fun _ _ _ => trivial) (fun _ _ run => moving.of_fault run)
    intro moved after run
    obtain ⟨still, -, reached⟩ := moving.of_ok run
    have inside := reached (Nat.mod_one sector)
    have progress := transfer_moved (Nat.pos_of_ne_zero done) run
    refine ⟨fun far => by omega, fun far => by omega, fun _ _ => ?_⟩
    have rest := ih (remaining - moved) (by omega) (still.advance moved (remaining - moved)) inside
      (by omega)
    refine .intro ?_ (fun _ _ _ => trivial) (fun _ _ run => ?_)
    · intro next last run
      obtain ⟨kept, place, within⟩ := rest.of_ok run
      exact ⟨kept, by omega, within⟩
    · have begun := rest.of_fault run
      omega

theorem writeStaged64_fits (ready : session.Ready drive 1) (small : sector < UInt64.size)
    (room : remaining ≤ Staging.sectors) :
    (writeStaged64 drive sector remaining).Fits (writeStaged drive sector remaining) session := by
  induction remaining using Nat.strongRecOn generalizing sector session with
  | ind remaining ih =>
    unfold Checked.Fits
    rw [writeStaged64]
    by_cases done : remaining = 0
    · subst done
      rw [writeStaged]
      rfl
    have moved : transfer64 drive .write sector remaining session = some _ :=
      ready.sound.transfer64_fits drive .write sector remaining
    have moving := ready.transfer_ends .write small remaining
    rw [writeStaged_eq done]
    simp only [done, moved, Option.bind_eq_bind, Option.bind_some, ↓reduceIte]
    rcases run : transfer drive .write sector remaining session with
      ⟨moved | cause | reason, after⟩
    · obtain ⟨still, -, reached⟩ := moving.of_ok run
      have inside := reached (Nat.mod_one sector)
      obtain ⟨progress, less⟩ := transfer_moved (Nat.pos_of_ne_zero done) run
      have part : moved + (remaining - moved) ≤ Staging.sectors := by omega
      have rest : writeStaged64 drive (sector + moved) (remaining - moved) _ = some _ :=
        ih (remaining - moved) (by omega) (still.advance moved (remaining - moved)) inside
          (by omega)
      dsimp only
      -- A transfer that succeeds has moved something, so the loop comes to an end.
      rw [if_neg (Nat.ne_of_gt progress), if_neg (Nat.not_le.mpr inside),
        if_neg (Nat.not_lt.mpr room), advance64_eq inside less]
      simp only [region64_eq part, Option.bind_some]
      rw [if_neg (Nat.not_lt.mpr room)]
      exact rest
    · rfl
    · rfl

variable {pieces : List Bytes}

theorem writePieces_ends (ready : session.Ready drive 1) (small : sector < UInt64.size)
    (whole : ∀ piece ∈ pieces, ∃ length ≤ Staging.sectors, piece.length = length * sectorSize) :
    Action.Ends (writePieces drive sector pieces) session
      (fun _ _ => sector + pieces.flatten.length / sectorSize < UInt64.size) (fun _ _ => True)
      (fun _ _ => sector ≤ Geometry.addressableSectors) := by
  induction pieces generalizing sector session with
  | nil => exact small
  | cons piece later ih =>
    obtain ⟨sectors, room, length⟩ := whole piece List.mem_cons_self
    have count : piece.length / sectorSize = sectors := by
      rw [length, Nat.mul_div_cancel _ (by decide)]
    have total : (piece :: later).flatten.length / sectorSize =
        sectors + later.flatten.length / sectorSize := by
      rw [List.flatten_cons, List.length_append, length, Nat.mul_comm,
        Nat.mul_add_div (by decide : 0 < sectorSize)]
    rw [writePieces, count, total]
    refine (stage_ends session length room).bind ?_
    rintro _ _ rfl
    have written := (ready.channel { session.channel with
      staging := session.channel.staging.fill 0 piece }).writeStaged_ends small room
    refine written.bind ?_
    rintro next after ⟨still, place, within⟩
    have rest := ih still within fun other member => whole other (List.mem_cons_of_mem piece member)
    refine .intro (fun _ _ run => ?_) (fun _ _ _ => trivial) (fun _ _ run => ?_)
    · have ended := rest.of_ok run
      omega
    · have begun := rest.of_fault run
      omega

theorem writePieces64_fits (ready : session.Ready drive 1) (small : sector < UInt64.size)
    (whole : ∀ piece ∈ pieces, ∃ length ≤ Staging.sectors, piece.length = length * sectorSize) :
    (writePieces64 drive sector pieces).Fits (writePieces drive sector pieces) session := by
  induction pieces generalizing sector session with
  | nil => exact Checked.fits_run (pure ()) session
  | cons piece later ih =>
    obtain ⟨sectors, room, length⟩ := whole piece List.mem_cons_self
    have count : piece.length / sectorSize = sectors := by
      rw [length, Nat.mul_div_cancel _ (by decide)]
    rw [writePieces64, writePieces, count]
    apply (Checked.fits_run _ session).bind
    intro _ staged run
    rw [stage_eq session length room] at run
    cases run
    have ready := ready.channel { session.channel with
      staging := session.channel.staging.fill 0 piece }
    apply (ready.writeStaged64_fits small room).bind
    intro next after run
    obtain ⟨still, -, within⟩ := (ready.writeStaged_ends small room).of_ok run
    exact ih still within fun other member => whole other (List.mem_cons_of_mem piece member)

end Write

end Ready

variable {disk : DiskHandle} {sector : Nat}

theorem driveBehind_ok {drive : DriveNumber} (named : driveBehind disk = .ok drive) :
    drive = UInt8.ofNat disk.id := by
  unfold driveBehind at named
  split at named
  · exact (Except.ok.inj named).symm
  · cases named

theorem recordOf_ready {session : Session Machine} (sound : session.Sound) {drive : DriveNumber}
    (sized : session.channel.firmware.Sized drive) :
    Action.Ends (recordOf drive) session
      (fun record after => after.Ready drive (readUnit after.settings record))
      (fun _ _ => True) (fun _ _ => False) := by
  have met := recordOf_of_keeps session (Machine.keeps_sized session.channel.firmware sized)
  exact .intro (fun _ _ run => .of_met sound run) (fun _ _ _ => trivial)
    (fun _ _ run => met.of_fault run)

section Read

variable {lent : Lent (Session Machine)}

theorem read64_fits (sound : lent.state.Sound) (small : sector < UInt64.size)
    (short : lent.buffer.length < UInt64.size) :
    (read64 disk sector).Fits (read disk sector) lent := by
  apply Checked.Fits.check
  intro drive _
  apply Checked.Fits.look
  apply Checked.Fits.check
  intro count _
  apply Checked.Fits.check
  intro _ _
  apply (Checked.fits_run _ lent).bind
  intro record after run
  obtain ⟨state, met, rfl⟩ := Action.onPart_eq_ok.mp run
  have ready := Ready.of_met sound met
  apply Checked.Fits.look
  apply Checked.Fits.compute (Settings.opticalSpan64_eq ready.sound.valid)
  exact ready.readUnits64_fits disk.name small short

theorem read_inside (sound : lent.state.Sound)
    (sized : lent.state.channel.firmware.Sized (UInt8.ofNat disk.id)) (small : sector < UInt64.size) :
    Action.Ends (read disk sector) lent
      (fun _ _ => sector + lent.buffer.length / sectorSize < UInt64.size) (fun _ _ => True)
      (fun _ _ => sector ≤ Geometry.addressableSectors + 8) := by
  refine read_of_units (fun _ _ => trivial) fun drive _ named _ _ => ?_
  cases driveBehind_ok named
  refine (recordOf_ready sound sized).unfaulted.mono ?_ (fun _ _ _ => trivial)
  intro record state ready
  have ended := @Ready.readUnits_ends _ _ _ { lent with state } ready disk.name small
  obtain ⟨-, few⟩ := ready.unit_bounds
  refine .intro (fun _ _ run => ended.of_ok run) (fun _ _ _ => trivial) (fun _ _ run => ?_)
  have begun := ended.of_fault run
  omega

end Read

section Write

variable {session : Session Machine} {bytes : Bytes}

theorem write64_fits (sound : session.Sound) (small : sector < UInt64.size) :
    (write64 disk sector bytes).Fits (write disk sector bytes) session := by
  apply Checked.Fits.check
  intro drive _
  apply Checked.Fits.check
  intro count counted
  apply (Checked.fits_run _ session).bind
  intro record after met
  have ready := Ready.of_met sound met
  cases optical : record.optical with
  | true => exact Checked.fits_run _ after
  | false =>
    rw [readUnit, optical, if_neg Bool.false_ne_true] at ready
    apply Checked.Fits.check
    intro _ _
    exact ready.writePieces64_fits small fun piece member =>
      writtenPieces_sectors (sectorCount_ok counted) member

theorem write_inside (sound : session.Sound)
    (sized : session.channel.firmware.Sized (UInt8.ofNat disk.id)) (small : sector < UInt64.size) :
    Action.Ends (write disk sector bytes) session
      (fun _ _ => sector + bytes.length / sectorSize < UInt64.size) (fun _ _ => True)
      (fun _ _ => sector ≤ Geometry.addressableSectors + 8) := by
  refine write_of_pieces (fun _ _ => trivial) fun drive count named counted => ?_
  cases driveBehind_ok named
  refine (recordOf_ready sound sized).unfaulted.mono ?_ (fun _ _ _ => trivial)
  intro record after ready
  refine ⟨fun _ => trivial, fun plain => ⟨fun _ _ => trivial, fun _ => ?_⟩⟩
  rw [readUnit, plain, if_neg Bool.false_ne_true] at ready
  have ended := ready.writePieces_ends small fun piece member =>
    writtenPieces_sectors (sectorCount_ok counted) member
  rw [writtenPieces_flatten] at ended
  refine .intro (fun _ _ run => ended.of_ok run) (fun _ _ _ => trivial) (fun _ _ run => ?_)
  have begun := ended.of_fault run
  omega

end Write

/-- A request that would run past the end of 64 bits, and that neither succeeds nor faults there, is
refused. -/
theorem refused_past {τ : Type} {request : Action τ DiskError Unit} {before : τ} {length : Nat}
    (ends : Action.Ends request before (fun _ _ => sector + length / sectorSize < UInt64.size)
      (fun _ _ => True) (fun _ _ => sector ≤ Geometry.addressableSectors + 8))
    (short : length < UInt64.size) (past : UInt64.size ≤ sector + length / sectorSize) :
    ∃ cause after, request before = (.error cause, after) := by
  obtain ⟨_, _, -, inside⟩ | ⟨cause, after, run, -⟩ | ⟨_, _, -, begun⟩ := ends.cases
  · omega
  · exact ⟨cause, after, run⟩
  · have most : Geometry.addressableSectors = 16515072 := rfl
    have limit : UInt64.size = 0x10000000000000000 := rfl
    have sectors : length / sectorSize ≤ length / 2 := Nat.div_le_div_left (by decide) (by decide)
    omega

/-- Requests at the end of the 64-bit numbers, in every session with a machine, whatever the size of
its media and whether or not the size of a disk is known.

Wherever a request begins and however long it is, no number that a read, a write, a transfer or the
extended service of a drive computes on its way leaves 64 bits. A request that would run past the end
is refused. Heads and sectors per track are 32-bit numbers in a machine, which keeps a probe from
faulting. -/
theorem sector_arithmetic_fits {settings : Settings} {firmware : Machine}
    {session : Session Machine} (reachable : Reachable settings firmware session)
    (small : sector < UInt64.size) :
    (∀ (disk : DiskHandle) (buffer : Bytes), buffer.length < UInt64.size →
      (read64 disk sector).Fits (read disk sector) { buffer, state := session } ∧
      (session.channel.firmware.Sized (UInt8.ofNat disk.id) →
        UInt64.size ≤ sector + buffer.length / sectorSize →
          ∃ cause after, read disk sector { buffer, state := session } = (.error cause, after))) ∧
    (∀ (disk : DiskHandle) (bytes : Bytes), bytes.length < UInt64.size →
      (write64 disk sector bytes).Fits (write disk sector bytes) session ∧
      (session.channel.firmware.Sized (UInt8.ofNat disk.id) →
        UInt64.size ≤ sector + bytes.length / sectorSize →
          ∃ cause after, write disk sector bytes session = (.error cause, after))) ∧
    (∀ (drive : DriveNumber) (direction : Direction) (count : Nat),
      (transfer64 drive direction sector count).Fits (transfer drive direction sector count)
        session) ∧
    ∀ (direction : Direction) (packet : DiskAddressPacket) (lent : Lent Drive),
      (Drive.blockTransfer64 direction packet).Fits (Drive.blockTransfer direction packet) lent := by
  have sound := reachable.sound
  refine ⟨fun disk buffer short => ⟨?_, ?_⟩, fun disk bytes short => ⟨?_, ?_⟩, ?_, ?_⟩
  · exact read64_fits sound small short
  · intro sized past
    have ends := @read_inside disk sector { buffer, state := session } sound sized small
    exact refused_past ends short past
  · exact write64_fits sound small
  · intro sized past
    exact refused_past (write_inside sound sized small) short past
  · exact fun drive direction count => sound.transfer64_fits drive direction sector count
  · exact Drive.blockTransfer64_fits

def vastDrive : Drive :=
  Drive.fixed { store := .memory { totalSectors := UInt64.size - 1 } }

/-- A new session with a machine that has the vast drive. -/
def vastSession : Session Machine where
  channel := {
    firmware := Machine.attach {} 0x80 vastDrive
    staging := Staging.empty 0x6800 }
  settings := {}
  opticalDrive := none

/-- The vast drive as it is opened: its size is the one by which an unknown size is told. -/
def vastDisk : DiskHandle where
  name := "hd0"
  backend := backendName
  id := 0x80
  totalSectors := unknownTotal
  hasPartitions := true

/-- The last two sectors of the vast drive can be read. Requests for two more run past the end of
64 bits. -/
theorem sector_arithmetic_fits_vast :
    let first := UInt64.size - 3
    let bytes : Bytes := List.replicate 2048 7
    (read vastDisk first { buffer := bytes.take 1024, state := vastSession }).1 = .ok () ∧
    read64 vastDisk first { buffer := bytes, state := vastSession } =
      some (read vastDisk first { buffer := bytes, state := vastSession }) ∧
    (∃ cause after, read vastDisk first { buffer := bytes, state := vastSession } =
      (.error cause, after)) ∧
    ∃ cause after, write vastDisk first bytes vastSession = (.error cause, after) := by
  intro first bytes
  have begun : Reachable {} (Machine.attach {} 0x80 vastDrive) vastSession := .start rfl
  have whole : bytes.length = 2048 := List.length_replicate
  have short : bytes.length < UInt64.size := by
    rw [whole]
    decide
  have past : UInt64.size ≤ first + bytes.length / sectorSize := by
    rw [whole]
    decide
  have sized : vastSession.channel.firmware.Sized 0x80 := by
    intro drive attached
    cases attached
    decide
  obtain ⟨reads, writes, -, -⟩ := sector_arithmetic_fits begun (show first < UInt64.size by decide)
  obtain ⟨fits, refused⟩ := reads vastDisk bytes short
  exact ⟨by decide +kernel, fits, refused sized past, (writes vastDisk bytes short).2 sized past⟩

end FirmwareDisk.Session
