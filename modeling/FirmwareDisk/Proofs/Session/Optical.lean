import FirmwareDisk.Proofs.Session.Confinement
import FirmwareDisk.Proofs.Transfer.Optical

set_option autoImplicit false

namespace FirmwareDisk.Session

/-- Rounds that tile the blocks from one up to another. Each begins where the one before it ended, and
is for 32 sectors at most. -/
inductive Tiles (span : Nat) : Nat → Nat → List Round → Prop
  | none (block : Nat) : Tiles span block block []
  | cons {first stop : Nat} {round : Round} {rest : List Round}
      (block : round.packet.block.toNat = first) (wanted : 1 ≤ round.blocks)
      (few : round.blocks ≤ 32 / span) (behind : Tiles span (first + round.blocks) stop rest) :
      Tiles span first stop (round :: rest)

section Rounds

variable {settings : Settings} {number : DriveNumber}
  {before middle after : Session (Watched Machine)} {rounds : List Round}

/-- A session after some rounds. Nothing else was asked of the firmware, no medium was written and no
record has changed. -/
structure Spun (settings : Settings) (number : DriveNumber)
    (before after : Session (Watched Machine)) (rounds : List Round) : Prop where
  transcript : after.transcript =
    before.transcript ++ rounds.flatMap (Round.exchanges number settings.opticalSpan)
  settings : after.settings = before.settings
  records : ∀ other, after.cache.get? other = before.cache.get? other
  idle : Machine.Idle number before.channel.firmware.firmware after.channel.firmware.firmware

theorem Spun.append {more : List Round} (front : Spun settings number before middle rounds)
    (back : Spun settings number middle after more) :
    Spun settings number before after (rounds ++ more) where
  transcript := by
    rw [back.transcript, front.transcript, List.flatMap_append, List.append_assoc]
  settings := back.settings.trans front.settings
  records other := (back.records other).trans (front.records other)
  idle := front.idle.trans back.idle

/-- The last of the blocks that hold some sectors. -/
def endBlock (settings : Settings) (sector count : Nat) : Nat :=
  (sector + count + (settings.opticalSpan - 1)) / settings.opticalSpan

/-- What a read has asked for when it succeeds. -/
structure Served (settings : Settings) (number : DriveNumber) (sector count : Nat)
    (before after : Session (Watched Machine)) (rounds : List Round) : Prop where
  spun : Spun settings number before after rounds
  tiles : Tiles settings.opticalSpan (sector / settings.opticalSpan)
    (endBlock settings sector count) rounds
  held : ∀ round ∈ rounds, round.Held settings.opticalRetryCount

/-- What a read has asked for when it fails: the last round was refused as often as it was tried. -/
structure Stopped (settings : Settings) (number : DriveNumber) (sector count : Nat)
    (before after : Session (Watched Machine)) (rounds : List Round) (last : Round) : Prop where
  spun : Spun settings number before after (rounds ++ [last])
  tiles : ∃ stop ≤ endBlock settings sector count,
    Tiles settings.opticalSpan (sector / settings.opticalSpan) stop (rounds ++ [last])
  held : ∀ round ∈ rounds, round.Held settings.opticalRetryCount
  lost : last.Lost settings.opticalRetryCount

/-- A transfer for which a round was granted. -/
structure Fetched (settings : Settings) (number : DriveNumber) (block moved : Nat)
    (before after : Session (Watched Machine)) (drive : Drive) (round : Round) : Prop where
  spun : Spun settings number before after [round]
  held : round.Held settings.opticalRetryCount
  begun : round.packet.block.toNat = block
  size : moved = round.blocks * settings.opticalSpan
  attached : before.channel.firmware.firmware.drive? number = some drive
  inside : block * settings.opticalSpan + moved < UInt64.size
  fits : block * settings.opticalSpan + moved ≤ BlockDevice.totalSectors drive.medium
  staged : after.channel.staging.data.take (moved * sectorSize) =
    drive.medium.flat.slice (block * settings.opticalSpan * sectorSize) (moved * sectorSize)

theorem Fetched.bounds {block moved wanted : Nat} {drive : Drive} {round : Round}
    (fetched : Fetched settings number block moved before after drive round)
    (positive : 0 < settings.opticalSpan) (nonempty : 1 ≤ wanted)
    (most : moved = min (wanted * settings.opticalSpan) 32) :
    1 ≤ round.blocks ∧ round.blocks ≤ 32 / settings.opticalSpan := by
  have size := fetched.size
  have sectors := Nat.mul_pos nonempty positive
  refine ⟨Nat.pos_of_ne_zero fun zero => ?_, (Nat.le_div_iff_mul_le positive).mpr (by omega)⟩
  rw [zero, Nat.zero_mul] at size
  omega

theorem Fetched.piece {block moved skip length : Nat} {drive : Drive} {round : Round}
    (fetched : Fetched settings number block moved before after drive round)
    (part : skip + length ≤ moved) :
    Bytes.slice after.channel.staging.data (skip * sectorSize) (length * sectorSize) =
      drive.medium.flat.slice ((block * settings.opticalSpan + skip) * sectorSize)
        (length * sectorSize) := by
  have inside : skip * sectorSize + length * sectorSize ≤ moved * sectorSize := by
    rw [← Nat.add_mul]
    exact Nat.mul_le_mul_right sectorSize part
  rw [Flat.slice_of_take fetched.staged inside, Nat.add_mul _ skip]

theorem Fetched.medium {block moved : Nat} {drive held : Drive} {round : Round}
    (fetched : Fetched settings number block moved before after drive round)
    (attached : after.channel.firmware.firmware.drive? number = .some held) :
    held.medium = drive.medium := by
  have media := fetched.spun.idle.media number
  rw [attached, fetched.attached] at media
  simpa only [Option.map_some, Option.some.injEq] using media

theorem Fetched.served {sector count moved : Nat} {drive : Drive} {round : Round}
    (fetched : Fetched settings number (sector / settings.opticalSpan) moved before after drive round)
    (wanted : 1 ≤ round.blocks) (few : round.blocks ≤ 32 / settings.opticalSpan)
    (stop : sector / settings.opticalSpan + round.blocks = endBlock settings sector count) :
    Served settings number sector count before after [round] where
  spun := fetched.spun
  tiles := .cons fetched.begun wanted few (stop ▸ .none _)
  held other member := by
    rw [List.mem_singleton] at member
    exact member ▸ fetched.held

/-- A round in front of those of the rest of a read. -/
theorem Served.cons {sector count length moved : Nat} {drive : Drive} {round : Round}
    (first : Fetched settings number (sector / settings.opticalSpan) moved before middle drive round)
    (wanted : 1 ≤ round.blocks) (few : round.blocks ≤ 32 / settings.opticalSpan)
    (next : (sector + length) / settings.opticalSpan =
      sector / settings.opticalSpan + round.blocks)
    (part : length ≤ count)
    (rest : Served settings number (sector + length) (count - length) middle after rounds) :
    Served settings number sector count before after (round :: rounds) where
  spun := first.spun.append rest.spun
  tiles := by
    have tiles := rest.tiles
    have total : sector + length + (count - length) = sector + count := by omega
    rw [next, endBlock, total] at tiles
    exact .cons first.begun wanted few tiles
  held other member := by
    rcases List.mem_cons.mp member with rfl | later
    · exact first.held
    · exact rest.held other later

theorem Stopped.cons {sector count length moved : Nat} {drive : Drive} {round last : Round}
    (first : Fetched settings number (sector / settings.opticalSpan) moved before middle drive round)
    (wanted : 1 ≤ round.blocks) (few : round.blocks ≤ 32 / settings.opticalSpan)
    (next : (sector + length) / settings.opticalSpan =
      sector / settings.opticalSpan + round.blocks)
    (part : length ≤ count)
    (rest : Stopped settings number (sector + length) (count - length) middle after rounds last) :
    Stopped settings number sector count before after (round :: rounds) last where
  spun := first.spun.append rest.spun
  tiles := by
    obtain ⟨stop, less, tiles⟩ := rest.tiles
    have total : sector + length + (count - length) = sector + count := by omega
    rw [next] at tiles
    rw [endBlock, total] at less
    exact ⟨stop, less, .cons first.begun wanted few tiles⟩
  held other member := by
    rcases List.mem_cons.mp member with rfl | later
    · exact first.held
    · exact rest.held other later
  lost := rest.lost

end Rounds

variable {record : Geometry} {opticalDrive : Option DriveNumber}

/-- A transfer of whole blocks of the optical drive is one round. -/
theorem transfer_spun {settings : Settings} (valid : settings.check = .ok ())
    {session : Session (Watched Machine)} (settled : session.settings = settings)
    (sound : record.Sound opticalDrive) (optical : record.optical = true)
    (cached : session.cache.get? record.drive = some record) {block wanted : Nat}
    (nonempty : 1 ≤ wanted) (small : block < UInt64.size) :
    Action.Ends
      (transfer record.drive .read (block * settings.opticalSpan)
        (wanted * settings.opticalSpan)) session
      (fun moved after => moved = min (wanted * settings.opticalSpan) 32 ∧
        ∃ drive round, Fetched settings record.drive block moved session after drive round)
      (fun cause after => cause = .readFailed record.drive.name ∧ ∃ round : Round,
        (1 ≤ round.blocks ∧ round.blocks ≤ wanted ∧ round.blocks * settings.opticalSpan ≤ 32) ∧
        round.packet.block.toNat = block ∧ round.Lost settings.opticalRetryCount ∧
        Spun settings record.drive session after [round])
      (fun _ _ => False) := by
  have table := GeometryCache.get?_insert_same cached
  subst settled
  refine transfer_of_cached cached ((transfer_optical valid sound optical nonempty small).mono ?_ ?_)
  · rintro moved link ⟨same, round, length, size, asked, granted⟩
    obtain ⟨drive, attached, moving⟩ := granted.moved
    rw [asked, ← size] at moving
    refine ⟨length, drive, round, ⟨?_, rfl, ?_, ?_⟩, granted.held, asked, size, attached,
      moving.inside, moving.fits, moving.data rfl⟩
    · rw [List.flatMap_singleton]
      exact granted.transcript
    · rw [same]
      exact table
    · exact fun start => moving.patched.anywhere start
  · rintro cause link ⟨rfl, same, round, bounds, asked, denied⟩
    refine ⟨rfl, round, bounds, asked, denied.lost, ?_, rfl, ?_, ?_⟩
    · rw [List.flatMap_singleton]
      exact denied.transcript
    · rw [same]
      exact table
    · exact denied.failed.idle

theorem endBlock_eq {span : Nat} (positive : 0 < span) (sector count : Nat) :
    (sector + count + (span - 1)) / span =
      sector / span + (sector % span + count + (span - 1)) / span := by
  have place := Nat.div_add_mod sector span
  rw [Nat.mul_comm] at place
  have apart : sector + count + (span - 1) =
      sector % span + count + (span - 1) + sector / span * span := by omega
  rw [apart, Nat.add_mul_div_right _ _ positive, Nat.add_comm]

/-- What a round of blocks contributes to a request: a sector at least, and either all the sectors that
are left or those up to the end of its blocks. -/
theorem round_length {span sector remaining blocks length : Nat} (positive : 0 < span)
    (size : blocks * span = min ((sector % span + remaining + (span - 1)) / span * span) 32)
    (nonempty : 1 ≤ remaining) (pos : 1 ≤ blocks)
    (same : length = min (blocks * span - sector % span) remaining) :
    1 ≤ length ∧ sector % span + length ≤ blocks * span ∧
      (length = remaining ∧ sector / span + blocks = (sector + remaining + (span - 1)) / span ∨
        length < remaining ∧ sector + length = (sector / span + blocks) * span) := by
  have skip := Nat.mod_lt sector positive
  have place := Nat.div_add_mod sector span
  rw [Nat.mul_comm] at place
  have upper := Nat.div_mul_le_self (sector % span + remaining + (span - 1)) span
  have lower := @Nat.lt_div_mul_add (sector % span + remaining + (span - 1)) span positive
  have least := Nat.le_mul_of_pos_left span pos
  rw [endBlock_eq positive]
  generalize (sector % span + remaining + (span - 1)) / span = wanted at *
  refine ⟨by omega, by omega, ?_⟩
  by_cases fits : wanted * span ≤ 32
  · left
    have all : blocks = wanted := Nat.eq_of_mul_eq_mul_right positive (by omega)
    rw [all] at same ⊢
    exact ⟨by omega, rfl⟩
  · right
    have more : blocks + 1 ≤ wanted := Nat.lt_of_mul_lt_mul_right (a := span) (by omega)
    have next := Nat.mul_le_mul_right span more
    rw [Nat.add_mul, Nat.one_mul] at next
    rw [Nat.add_mul]
    omega

/-- A read of the optical drive. -/
theorem readUnits_optical (device : String) {settings : Settings} (valid : settings.check = .ok ())
    (sound : record.Sound opticalDrive) (optical : record.optical = true) {remaining sector : Nat}
    (lent : Lent (Session (Watched Machine))) (settled : lent.state.settings = settings)
    (cached : lent.state.cache.get? record.drive = some record) (nonempty : 1 ≤ remaining)
    (small : sector < UInt64.size) (whole : lent.buffer.length = remaining * sectorSize) :
    Action.Ends (readUnits device record.drive settings.opticalSpan sector) lent
      (fun _ after =>
        (∃ rounds, Served settings record.drive sector remaining lent.state after.state rounds) ∧
        ∃ drive, lent.state.channel.firmware.firmware.drive? record.drive = .some drive ∧
          sector + remaining ≤ BlockDevice.totalSectors drive.medium ∧
          after.buffer = drive.medium.flat.slice (sector * sectorSize) (remaining * sectorSize))
      (fun cause after => cause = .readFailed record.drive.name ∧ ∃ rounds last,
        Stopped settings record.drive sector remaining lent.state after.state rounds last)
      (fun _ _ => False) := by
  obtain ⟨positive, -⟩ := Transfer.opticalSpan_bounds valid
  induction remaining using Nat.strongRecOn generalizing sector lent with
  | ind remaining ih =>
    have size : lent.buffer.length / sectorSize = remaining := by
      rw [whole, Nat.mul_div_cancel _ (by decide)]
    have place := Nat.div_add_mod sector settings.opticalSpan
    rw [Nat.mul_comm] at place
    have begun : sector - sector % settings.opticalSpan =
        sector / settings.opticalSpan * settings.opticalSpan := by omega
    have lower := Nat.div_le_self sector settings.opticalSpan
    have wanted : 1 ≤ (sector % settings.opticalSpan + remaining + (settings.opticalSpan - 1)) /
        settings.opticalSpan := (Nat.le_div_iff_mul_le positive).mpr (by omega)
    refine readUnits_round (by omega) ?_
    rw [size, begun]
    refine (transfer_spun valid settled sound optical cached wanted (by omega)).mono ?_ ?_
    · rintro moved state ⟨moved_eq, drive, round, fetched⟩ length same
      obtain ⟨pos, few⟩ := fetched.bounds positive wanted moved_eq
      rw [fetched.size] at moved_eq same
      obtain ⟨progress, part, left⟩ := round_length positive moved_eq nonempty pos same
      have sectors : Staging.sectors = 128 := rfl
      have inside := fetched.inside
      have fits := fetched.fits
      have length_moved := fetched.size
      have piece := fetched.piece (length_moved.symm ▸ part)
      rw [place] at piece
      refine ⟨fun done => by omega, fun _ => ⟨fun far => by omega, fun far => by omega, ?_⟩⟩
      intro _ before
      rw [piece]
      have behind : (lent.buffer.drop (length * sectorSize)).length =
          (remaining - length) * sectorSize := by
        rw [List.length_drop, whole, Nat.sub_mul]
      rcases left with ⟨all, stop⟩ | ⟨less, next⟩
      · subst all
        rw [Nat.sub_self, Nat.zero_mul] at behind
        refine readUnits_done (by rw [behind, Nat.zero_div])
          ⟨⟨[round], fetched.served pos few stop⟩, drive, fetched.attached, by omega, ?_⟩
        rw [List.length_eq_zero_iff.mp behind, List.append_nil]
      · have aligned : (sector + length) / settings.opticalSpan =
            sector / settings.opticalSpan + round.blocks := by
          rw [next, Nat.mul_div_cancel _ positive]
        have kept := (fetched.spun.records record.drive).trans cached
        refine (ih (remaining - length) (by omega)
          { buffer := lent.buffer.drop (length * sectorSize), state }
          (fetched.spun.settings.trans settled) kept (by omega) before behind).mono ?_ ?_
        · rintro _ after ⟨⟨rounds, served⟩, held, attached, further, bytes⟩
          have medium := fetched.medium attached
          rw [medium] at further bytes
          refine ⟨⟨round :: rounds, served.cons fetched pos few aligned (Nat.le_of_lt less)⟩, drive,
            fetched.attached, by omega, ?_⟩
          have total : length * sectorSize + (remaining - length) * sectorSize =
              remaining * sectorSize := by
            rw [← Nat.add_mul, Nat.add_sub_cancel' (Nat.le_of_lt less)]
          rw [bytes, Nat.add_mul sector, ← Flat.slice_add, total]
        · rintro cause after ⟨same, rounds, last, stopped⟩
          exact ⟨same, round :: rounds, last,
            stopped.cons fetched pos few aligned (Nat.le_of_lt less)⟩
    · rintro cause state ⟨rfl, round, ⟨pos, less, few⟩, asked, lost, spun⟩
      refine ⟨rfl, [], round, spun, ⟨sector / settings.opticalSpan + round.blocks, ?_, ?_⟩,
        List.forall_mem_nil _, lost⟩
      · rw [endBlock, endBlock_eq positive]
        omega
      · exact .cons asked pos ((Nat.le_div_iff_mul_le positive).mpr few) (.none _)

/-- The optical drive that the machine started from is met without any call of its firmware. -/
theorem recordOf_optical {σ : Type} [Firmware σ] {session : Session σ} (sound : session.Sound)
    {number : DriveNumber} (classified : session.opticalDrive = some number) :
    ∃ record cache, recordOf number session = (.ok record, { session with cache }) ∧
      cache.get? number = some record ∧ record.drive = number ∧ record.optical = true ∧
      record.Sound session.opticalDrive := by
  cases found : session.cache.get? number with
  | some record =>
    obtain ⟨member, own⟩ := GeometryCache.get?_some found
    have known := sound.records record member
    refine ⟨record, session.cache, recordOf_cached found, found, own, ?_, known⟩
    rw [known.optical, own]
    exact classified
  | none =>
    have probed : onChannel (Geometry.probe number session.opticalDrive) session =
        ((.ok (Geometry.ofOptical number), session) : Outcome DiskError Geometry × _) := by
      rw [Geometry.probe, if_pos classified]
      rfl
    refine ⟨Geometry.ofOptical number, session.cache.insert (Geometry.ofOptical number), ?_, ?_, rfl,
      rfl, ?_⟩
    · rw [recordOf, Action.look_bind, found]
      dsimp only
      rw [Action.look_bind, Action.bind_of_ok probed]
      rfl
    · exact GeometryCache.get?_insert_own rfl
    · exact (Geometry.Probed.optical classified).sound sound.fixed

/-- A read of the drive that the session takes for the optical one. It succeeds with the sectors of
the request and no others; the rounds in which their blocks were granted tile the blocks that hold
them. Or one round is refused as often as the settings allow, and the read fails at once. Either way
the firmware was asked for nothing but these blocks, with the same packet throughout a round, no
record has changed and no medium was written. -/
theorem optical_read_tiled {settings : Settings} {firmware : Machine} {session : Session Machine}
    (reachable : Reachable settings firmware session) {disk : DiskHandle} {number : DriveNumber}
    (handle : driveBehind disk = .ok number) (classified : session.opticalDrive = some number)
    {sector count : Nat} (small : sector < UInt64.size) (wanted : 1 ≤ count) {buffer : Bytes}
    (whole : buffer.length = count * sectorSize) :
    ∃ record resolved outcome after,
      recordOf number session.watched = (.ok record, resolved) ∧ record.optical = true ∧
      read disk sector { buffer, state := session.watched } = (outcome, after) ∧
      read disk sector { buffer, state := session } = (outcome, after.map unwatched) ∧
      ((∃ cause, checkRequest disk sector count = .error cause ∧ outcome = .error cause ∧
          after = { buffer, state := session.watched }) ∨
        (outcome = .ok () ∧
          (∃ rounds, Served session.settings number sector count resolved after.state rounds) ∧
          ∃ drive, session.channel.firmware.drive? number = .some drive ∧
            sector + count ≤ BlockDevice.totalSectors drive.medium ∧
            after.buffer = drive.medium.flat.slice (sector * sectorSize) (count * sectorSize)) ∨
        (outcome = .error (.readFailed number.name) ∧ ∃ rounds last,
          Stopped session.settings number sector count resolved after.state rounds last)) := by
  -- Watching the session changes nothing about the run, so it is followed on the transcript.
  have sound := reachable.sound.watched
  have same := simulates_read Watched.simulation disk sector { buffer, state := session.watched }
  obtain ⟨record, cache, met, cached, own, optical, known⟩ := recordOf_optical sound classified
  subst own
  rcases run : read disk sector { buffer, state := session.watched } with ⟨outcome, after⟩
  rw [run] at same
  refine ⟨record, _, outcome, after, met, optical, rfl, same, ?_⟩
  have counted := sectorCount_of_mul whole
  cases accepted : checkRequest disk sector count with
  | error cause =>
    left
    rw [read, Action.bind_of_ok (Action.check_of_ok handle _), Action.look_bind,
      Action.bind_of_ok (Action.check_of_ok counted _), accepted] at run
    cases run
    exact ⟨cause, rfl, rfl, rfl⟩
  | ok =>
    right
    rw [read_accepted handle counted accepted met, readUnit, if_pos optical] at run
    have ends := readUnits_optical disk.name sound.valid known optical
      { buffer, state := { session.watched with cache } } rfl cached wanted small whole
    cases outcome with
    | ok value => exact Or.inl ⟨rfl, ends.of_ok run⟩
    | error cause =>
      obtain ⟨rfl, rounds⟩ := ends.of_error run
      exact Or.inr ⟨rfl, rounds⟩
    | fault reason => exact (ends.of_fault run).elim

def discMachine : Machine :=
  { Machine.attach {} 0xe0 (.optical { store := .memory { totalSectors := 64 } }) with
    bootDrive := 0xe0 }

def discSettings : Settings where
  bootDrive := 0xe0

/-- The disc, opened. -/
def disc : DiskHandle where
  name := "cd0"
  backend := "biosdisk"
  id := 0xe0
  totalSectors := unknownTotal
  hasPartitions := false

/-- A session with that machine, if there is one. -/
def discSession : Option (Session Machine) :=
  match start discSettings discMachine with
  | .ok session => some session
  | _ => none

/-- A sector in the midst of a block takes one round. -/
theorem optical_read_tiled_disc :
    ∃ session rounds, Reachable discSettings discMachine session ∧ Tiles 4 1 2 rounds ∧
      ∀ round ∈ rounds, round.Held 3 := by
  have drives : discSession.bind Session.opticalDrive = some 0xe0 := by decide +kernel
  have kept : discSession.map Session.settings = some discSettings := by decide +kernel
  have succeeds : discSession.map (fun session =>
      (read disc 5 { buffer := List.replicate 512 0, state := session }).1) = some (.ok ()) := by
    decide +kernel
  rcases started : start discSettings discMachine with session | cause | reason
  · have there : discSession = some session := by rw [discSession, started]
    rw [there] at drives kept succeeds
    have settings : session.settings = discSettings := Option.some.inj kept
    have reachable : Reachable discSettings discMachine session := .start started
    obtain ⟨_, _, outcome, after, -, -, -, run, ends⟩ := optical_read_tiled reachable
      (show driveBehind disc = .ok 0xe0 from rfl) drives (show 5 < UInt64.size by decide)
      (show 1 ≤ 1 by decide) (show (List.replicate 512 (0 : UInt8)).length = 1 * sectorSize from
        List.length_replicate)
    rw [Option.map_some, run] at succeeds
    have well : outcome = .ok () := Option.some.inj succeeds
    rcases ends with ⟨_, -, refused, -⟩ | ⟨-, ⟨rounds, served⟩, -⟩ | ⟨failed, -⟩
    · exact nomatch well.symm.trans refused
    · rw [settings] at served
      exact ⟨session, rounds, reachable, served.tiles, served.held⟩
    · exact nomatch well.symm.trans failed
  · rw [discSession, started] at drives
    cases drives
  · rw [discSession, started] at drives
    cases drives

end FirmwareDisk.Session
