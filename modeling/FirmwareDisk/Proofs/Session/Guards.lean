import FirmwareDisk.Proofs.Geometry.Inquiry
import FirmwareDisk.Proofs.Session.Confinement

set_option autoImplicit false

namespace FirmwareDisk

/-- A request to write to a drive. -/
def Request.Writes : Request → Prop
  | .chs direction _ _ _ => direction = .write
  | .block direction _ _ => direction = .write
  | _ => False

/-- A probe writes nothing. -/
theorem Geometry.not_writes_of_mem_questions {drive : DriveNumber} {request : Request}
    (asked : request ∈ questions drive) : ¬ request.Writes := by
  simp only [questions, List.mem_cons, List.not_mem_nil, or_false] at asked
  obtain rfl | rfl | rfl | rfl | rfl | rfl := asked <;> nofun

namespace Session

/-- A request for sectors that a disk of known size does not have. -/
def Beyond (disk : DiskHandle) (sector count : Nat) : Prop :=
  disk.totalSectors ≠ unknownTotal ∧ disk.totalSectors < sector + count

instance (disk : DiskHandle) (sector count : Nat) : Decidable (Beyond disk sector count) :=
  inferInstanceAs (Decidable (_ ∧ _))

section Checks

variable {disk : DiskHandle} {sector count length : Nat}

theorem driveBehind_eq (disk : DiskHandle) :
    driveBehind disk =
      if 256 ≤ disk.id then .error (.badDevice disk.name) else .ok (UInt8.ofNat disk.id) := by
  unfold driveBehind
  split <;> split <;> first | rfl | omega

theorem sectorCount_eq (length : Nat) :
    sectorCount length =
      if length % 512 ≠ 0 then .error (.unalignedLength length) else .ok (length / 512) := by
  unfold sectorCount
  by_cases aligned : length % 512 = 0
  · rw [if_pos aligned, if_neg (not_not_intro aligned)]
  · rw [if_neg aligned, if_pos aligned]

/-- A sum that leaves 64 bits exceeds any size that there is. -/
theorem checkRequest_eq (small : disk.totalSectors < UInt64.size) :
    checkRequest disk sector count =
      if Beyond disk sector count then .error (.outOfRange disk.name sector) else .ok () := by
  unfold checkRequest
  by_cases unknown : disk.totalSectors = unknownTotal
  · rw [if_pos unknown, if_neg fun beyond => beyond.1 unknown]
  · rw [if_neg unknown]
    by_cases inside : sector + count ≤ disk.totalSectors
    · rw [if_neg (by omega), if_neg fun beyond => Nat.not_le.mpr beyond.2 inside]
    · rw [if_pos (by omega), if_pos ⟨unknown, Nat.not_le.mp inside⟩]

end Checks

variable {σ : Type} [Firmware σ] {disk : DiskHandle}

/-- A read is refused by the first check that it does not pass, and nothing has happened. A read that
passes meets its drive, and goes on with the units of the request where that succeeds. -/
theorem read_guarded (small : disk.totalSectors < UInt64.size) (sector : Nat)
    (lent : Lent (Session σ)) :
    read disk sector lent =
      if 256 ≤ disk.id then (.error (.badDevice disk.name), lent)
      else if lent.buffer.length % 512 ≠ 0 then
        (.error (.unalignedLength lent.buffer.length), lent)
      else if Beyond disk sector (lent.buffer.length / 512) then
        (.error (.outOfRange disk.name sector), lent)
      else
        match recordOf (UInt8.ofNat disk.id) lent.state with
        | (.error cause, after) => (.error cause, { lent with state := after })
        | (.fault reason, after) => (.fault reason, { lent with state := after })
        | (.ok record, after) =>
          readUnits disk.name (UInt8.ofNat disk.id) (readUnit after.settings record) sector
            { lent with state := after } := by
  unfold read
  rw [driveBehind_eq]
  split
  · rfl
  rw [Action.bind_of_ok (Action.check_of_ok rfl lent), Action.look_bind, sectorCount_eq]
  split
  · rfl
  rw [Action.bind_of_ok (Action.check_of_ok rfl lent), checkRequest_eq small]
  split
  · rfl
  rw [Action.bind_of_ok (Action.check_of_ok rfl lent), Action.bind_apply, Lent.aside, Action.onPart]
  rcases recordOf (UInt8.ofNat disk.id) lent.state with ⟨record | cause | reason, after⟩ <;> rfl

/-- A write is checked for its drive and length like a read. Then the drive is met; an optical one
is refused before the range of the request is looked at. -/
theorem write_guarded (small : disk.totalSectors < UInt64.size) (sector : Nat) (bytes : Bytes)
    (session : Session σ) :
    write disk sector bytes session =
      if 256 ≤ disk.id then (.error (.badDevice disk.name), session)
      else if bytes.length % 512 ≠ 0 then (.error (.unalignedLength bytes.length), session)
      else
        match recordOf (UInt8.ofNat disk.id) session with
        | (.error cause, after) => (.error cause, after)
        | (.fault reason, after) => (.fault reason, after)
        | (.ok record, after) =>
          if record.optical = true then (.error (.readOnly disk.name), after)
          else if Beyond disk sector (bytes.length / 512) then
            (.error (.outOfRange disk.name sector), after)
          else writePieces (UInt8.ofNat disk.id) sector (writtenPieces bytes) after := by
  unfold write
  rw [driveBehind_eq]
  split
  · rfl
  rw [Action.bind_of_ok (Action.check_of_ok rfl session), sectorCount_eq]
  split
  · rfl
  rw [Action.bind_of_ok (Action.check_of_ok rfl session), Action.bind_apply]
  rcases recordOf (UInt8.ofNat disk.id) session with ⟨record | cause | reason, after⟩
  · dsimp only
    split
    · rfl
    · rw [checkRequest_eq small]
      split
      · rfl
      · rw [Action.bind_of_ok (Action.check_of_ok rfl after)]
  · rfl
  · rfl

/-- A write that passes every check, and meets a drive that it may write to. -/
structure Passes (disk : DiskHandle) (sector length : Nat) (session : Session σ) : Prop where
  named : disk.id < 256
  whole : length % 512 = 0
  inside : ¬ Beyond disk sector (length / 512)
  met : ∃ record after, recordOf (UInt8.ofNat disk.id) session = (.ok record, after) ∧
    record.optical = false

theorem Passes.unwatched {sector length : Nat} {session : Session (Watched σ)}
    (passes : Passes disk sector length session) : Passes disk sector length session.unwatched := by
  obtain ⟨record, after, met, plain⟩ := passes.met
  refine ⟨passes.named, passes.whole, passes.inside, record, after.unwatched, ?_, plain⟩
  rw [simulates_recordOf Watched.simulation, met]

/-- The ways in which a write comes to nothing: before its drive is met, after that, or with it. -/
inductive TurnedAway (drive : DriveNumber) (session : Session σ) :
    Outcome DiskError Unit × Session σ → Prop where
  | unasked (cause : DiskError) : TurnedAway drive session (.error cause, session)
  | met (cause : DiskError) {record : Geometry} {after : Session σ}
      (run : recordOf drive session = (.ok record, after)) :
      TurnedAway drive session (.error cause, after)
  | unmet {cause : DiskError} {after : Session σ}
      (run : recordOf drive session = (.error cause, after)) :
      TurnedAway drive session (.error cause, after)
  | broken {reason : Fault} {after : Session σ}
      (run : recordOf drive session = (.fault reason, after)) :
      TurnedAway drive session (.fault reason, after)

/-- A write that does not pass is turned away. -/
theorem write_turned_away (small : disk.totalSectors < UInt64.size) {sector : Nat} {bytes : Bytes}
    {session : Session σ} (turned : ¬ Passes disk sector bytes.length session) :
    TurnedAway (UInt8.ofNat disk.id) session (write disk sector bytes session) := by
  rw [write_guarded small]
  split
  · exact .unasked _
  rename_i named
  split
  · exact .unasked _
  rename_i whole
  rcases met : recordOf (UInt8.ofNat disk.id) session with ⟨record | cause | reason, after⟩
  · dsimp only
    cases optical : record.optical with
    | true => exact .met _ met
    | false =>
      rw [if_neg Bool.false_ne_true]
      split
      · exact .met _ met
      · rename_i inside
        exact (turned ⟨Nat.not_le.mp named, Decidable.not_not.mp whole, inside, record, after, met,
          optical⟩).elim
  · exact .unmet met
  · exact .broken met

theorem recordOf_asked (drive : DriveNumber) (session : Session (Watched σ)) :
    Channel.Asked (Geometry.questions drive) session.channel (recordOf drive session).2.channel := by
  have asks := Geometry.asks_probe (σ := σ) drive session.opticalDrive session.channel
  have met : Action.Ends (recordOf drive) session
      (fun _ after => Channel.Asked (Geometry.questions drive) session.channel after.channel)
      (fun _ after => Channel.Asked (Geometry.questions drive) session.channel after.channel)
      (fun _ after => Channel.Asked (Geometry.questions drive) session.channel after.channel) := by
    apply recordOf_of_probe
    · exact fun _ _ => Channel.asked_nothing _ _
    · exact .intro (fun _ _ run => asks.of_ok run) (fun _ _ run => asks.of_error run)
        (fun _ _ run => (asks.of_fault run).1)
  exact met.left

/-- Meeting a drive of a machine leaves every drive the medium that it has. -/
theorem recordOf_media (number : DriveNumber) (session : Session Machine) :
    Action.Ends (recordOf number) session
      (fun _ after => Machine.Idle number session.channel.firmware after.channel.firmware)
      (fun _ after => Machine.Idle number session.channel.firmware after.channel.firmware)
      (fun _ _ => True) :=
  (recordOf_of_keeps session (Machine.keeps_media session.channel.firmware)).mono
    (fun _ _ met => met.2) (fun _ _ unmet => unmet)

namespace TurnedAway

variable {drive : DriveNumber} {outcome : Outcome DiskError Unit}

theorem not_ok {session after : Session σ} (turned : TurnedAway drive session (outcome, after))
    (value : Unit) : outcome ≠ .ok value := by
  cases turned <;> nofun

theorem asked {session after : Session (Watched σ)}
    (turned : TurnedAway drive session (outcome, after)) :
    Channel.Asked (Geometry.questions drive) session.channel after.channel := by
  have met := recordOf_asked drive session
  cases turned with
  | unasked => exact Channel.asked_nothing _ _
  | met _ run => rwa [run] at met
  | unmet run => rwa [run] at met
  | broken run => rwa [run] at met

theorem of_cached {session after : Session σ} {record : Geometry}
    (turned : TurnedAway drive session (outcome, after))
    (cached : session.cache.get? drive = some record) : after = session := by
  have looked := recordOf_cached cached
  cases turned with
  | unasked => rfl
  | met _ run => cases run.symm.trans looked; rfl
  | unmet run => cases run.symm.trans looked
  | broken run => cases run.symm.trans looked

theorem idle {session after : Session Machine} {cause : DiskError}
    (turned : TurnedAway drive session (.error cause, after)) :
    Machine.Idle drive session.channel.firmware after.channel.firmware := by
  cases turned with
  | unasked => exact .refl drive _
  | met _ run => exact (recordOf_media drive session).of_ok run
  | unmet run => exact (recordOf_media drive session).of_error run

end TurnedAway

/-- The checks in front of a request are exact, whatever the firmware, the handle and the session.

A read with a bad handle, of a broken sector, or out of the range of a disk whose size is known is
refused in this order before anything happens: the buffer and the session, with its firmware, are the
same. Any other read meets its drive. A write is refused for its handle and length in the same way;
then the drive is met, and an optical one is refused before the range is checked. A write that does
not pass has asked the firmware for nothing but what a probe of the drive asks, and for nothing at all
if the drive had been met; it has written to no drive. -/
theorem requests_guarded {disk : DiskHandle} (small : disk.totalSectors < UInt64.size)
    (sector : Nat) :
    (∀ {σ : Type} [Firmware σ] (lent : Lent (Session σ)),
      read disk sector lent =
        if 256 ≤ disk.id then (.error (.badDevice disk.name), lent)
        else if lent.buffer.length % 512 ≠ 0 then
          (.error (.unalignedLength lent.buffer.length), lent)
        else if Beyond disk sector (lent.buffer.length / 512) then
          (.error (.outOfRange disk.name sector), lent)
        else
          match recordOf (UInt8.ofNat disk.id) lent.state with
          | (.error cause, after) => (.error cause, { lent with state := after })
          | (.fault reason, after) => (.fault reason, { lent with state := after })
          | (.ok record, after) =>
            readUnits disk.name (UInt8.ofNat disk.id) (readUnit after.settings record) sector
              { lent with state := after }) ∧
    (∀ {σ : Type} [Firmware σ] (session : Session σ) (bytes : Bytes),
      write disk sector bytes session =
        if 256 ≤ disk.id then (.error (.badDevice disk.name), session)
        else if bytes.length % 512 ≠ 0 then (.error (.unalignedLength bytes.length), session)
        else
          match recordOf (UInt8.ofNat disk.id) session with
          | (.error cause, after) => (.error cause, after)
          | (.fault reason, after) => (.fault reason, after)
          | (.ok record, after) =>
            if record.optical = true then (.error (.readOnly disk.name), after)
            else if Beyond disk sector (bytes.length / 512) then
              (.error (.outOfRange disk.name sector), after)
            else writePieces (UInt8.ofNat disk.id) sector (writtenPieces bytes) after) ∧
    (∀ {σ : Type} [Firmware σ] (session : Session σ) (bytes : Bytes),
      ¬ Passes disk sector bytes.length session →
        let run := write disk sector bytes session.watched
        write disk sector bytes session = (run.1, run.2.unwatched) ∧
        (∀ value, run.1 ≠ .ok value) ∧
        (run.2.transcript.map Exchange.request).Sublist
          (Geometry.questions (UInt8.ofNat disk.id)) ∧
        (∀ exchange ∈ run.2.transcript, ¬ exchange.request.Writes) ∧
        ∀ record, session.cache.get? (UInt8.ofNat disk.id) = some record →
          run.2 = session.watched) ∧
    ∀ (session : Session Machine) (bytes : Bytes), ¬ Passes disk sector bytes.length session →
      ∀ cause after, write disk sector bytes session = (.error cause, after) →
        ∀ number, (after.channel.firmware.drive? number).map Drive.medium =
          (session.channel.firmware.drive? number).map Drive.medium := by
  refine ⟨read_guarded small sector, fun session bytes => write_guarded small sector bytes session,
    ?_, ?_⟩
  · intro σ _ session bytes turned run
    have away : TurnedAway (UInt8.ofNat disk.id) session.watched (run.1, run.2) :=
      write_turned_away small fun passes => turned passes.unwatched
    obtain ⟨exchanges, transcript, few⟩ := away.asked
    have whole : run.2.transcript = exchanges := transcript
    refine ⟨simulates_write Watched.simulation disk sector bytes session.watched, away.not_ok,
      whole ▸ few, ?_, fun _ cached => away.of_cached cached⟩
    rw [whole]
    intro exchange member
    exact Geometry.not_writes_of_mem_questions (few.mem (List.mem_map_of_mem member))
  · intro session bytes turned cause after run
    have away := write_turned_away small turned
    rw [run] at away
    exact away.idle.media

/-- The faulty disk is asked for the last sector that there could be, before its drive was met: the
sum leaves 64 bits. The read asks nothing of the firmware, the write makes it probe the drive. -/
theorem requests_guarded_faulty :
    let last := UInt64.size - 1
    let piece : Bytes := List.replicate 512 7
    read faultyDisk last { buffer := piece, state := wokenSession.watched } =
      (.error (.outOfRange "hd0" last), { buffer := piece, state := wokenSession.watched }) ∧
    (write faultyDisk last piece wokenSession).1 = .error (.outOfRange "hd0" last) ∧
    (write faultyDisk last piece wokenSession.watched).2.transcript.length = 4 ∧
    (∀ exchange ∈ (write faultyDisk last piece wokenSession.watched).2.transcript,
      ¬ exchange.request.Writes) ∧
    ((write faultyDisk last piece wokenSession).2.channel.firmware.drive? 0x80).map Drive.medium =
      (wokenSession.channel.firmware.drive? 0x80).map Drive.medium := by
  intro last piece
  obtain ⟨reads, -, asked, media⟩ :=
    @requests_guarded faultyDisk (show 16065 < UInt64.size by decide) last
  have whole : piece.length = 512 := List.length_replicate
  have turned : ¬ Passes faultyDisk last piece.length wokenSession := by
    rw [whole]
    exact fun passes => passes.inside (by decide)
  have refused : (write faultyDisk last piece wokenSession).1 = .error (.outOfRange "hd0" last) := by
    decide +kernel
  refine ⟨?_, refused, by decide +kernel, (asked _ _ turned).2.2.2.1, ?_⟩
  · rw [reads]
    dsimp only
    rw [whole, if_neg (by decide), if_neg (by decide), if_pos (by decide)]
    rfl
  · exact media _ _ turned _ _ (by rw [← refused]) 0x80

end Session

end FirmwareDisk
