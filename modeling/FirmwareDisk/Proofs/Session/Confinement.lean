import FirmwareDisk.Proofs.Session.Carrying
import FirmwareDisk.Proofs.Session.Operations
import FirmwareDisk.Proofs.Session.Simulation
import FirmwareDisk.Proofs.Transfer.Confinement

set_option autoImplicit false

namespace FirmwareDisk.Session

variable {σ : Type}

theorem Sound.watched {session : Session σ} (sound : session.Sound) : session.watched.Sound :=
  ⟨sound.valid, sound.fixed, sound.distinct, sound.records⟩

/-- A watched session that has asked for nothing but sectors from `first` up to `stop` since its drive
was met. -/
def Stayed (resolved : Session (Watched σ)) (record : Geometry) (direction : Direction)
    (first stop : Nat) (session : Session (Watched σ)) : Prop :=
  ∃ asked, session.transcript = resolved.transcript ++ asked ∧
    ∀ exchange ∈ asked, exchange.Within record direction first stop

/-- A session amid a request for the sectors from `first` up to `stop`, of which those from `sector`
on are still to be moved. -/
structure Amid (resolved : Session (Watched σ)) (record : Geometry) (direction : Direction)
    (first stop sector : Nat) (session : Session (Watched σ)) : Prop where
  begun : first ≤ sector
  sound : session.Sound
  recorded : ∃ settled, session.cache.get? record.drive = some settled ∧ record.Settled settled
  stayed : Stayed resolved record direction first stop session

variable {resolved : Session (Watched σ)} {record : Geometry} {direction : Direction}
  {first stop : Nat}

theorem Stayed.append {before after : Session (Watched σ)} {asked : List Exchange}
    (stayed : Stayed resolved record direction first stop before)
    (transcript : after.transcript = before.transcript ++ asked)
    (within : ∀ exchange ∈ asked, exchange.Within record direction first stop) :
    Stayed resolved record direction first stop after := by
  obtain ⟨already, same, inside⟩ := stayed
  refine ⟨already ++ asked, ?_, ?_⟩
  · rw [transcript, same, List.append_assoc]
  · intro exchange member
    rcases List.mem_append.mp member with old | new
    · exact inside exchange old
    · exact within exchange new

variable [Firmware σ]

/-- Each transfer of a request stays inside it, and leaves the session ready for the next. -/
theorem Amid.transfer_ends {sector count : Nat} {session : Session (Watched σ)}
    (amid : Amid resolved record direction first stop sector session)
    (plain : record.optical = false) (small : sector < UInt64.size) (wanted : 0 < count)
    (inside : sector + count ≤ stop) :
    Action.Ends (transfer record.drive direction sector count) session
      (fun moved after => moved ≤ Staging.sectors ∧
        Amid resolved record direction first stop (sector + moved) after)
      (fun _ after => Stayed resolved record direction first stop after)
      (fun _ after => Stayed resolved record direction first stop after) := by
  obtain ⟨settled, cached, changed⟩ := amid.recorded
  have known := amid.sound.records settled (GeometryCache.get?_some cached).1
  have plainSettled : settled.optical = false := changed.optical.trans plain
  obtain ⟨asked, transcript, within, further⟩ := transfer_within session.settings direction
    { record := settled, channel := session.channel } plainSettled (known.shape plainSettled)
    known.cap.2 small wanted
  -- However the transfer ends, it has asked only for sectors of its own part of the request.
  have stayed : Stayed resolved record direction first stop
      (transfer record.drive direction sector count session).2 := by
    have run : (transfer record.drive direction sector count session).2.transcript =
        session.transcript ++ asked := by
      rw [transfer, Action.bind_of_ok (recordOf_cached cached)]
      exact transcript
    refine amid.stayed.append run ?_
    intro exchange member
    exact (within exchange member).widen changed amid.begun inside
  have recorded : ∃ last,
      (transfer record.drive direction sector count session).2.cache.get? record.drive =
        some last ∧ record.Settled last := by
    refine ⟨_, ?_, changed.trans further⟩
    rw [transfer, Action.bind_of_ok (recordOf_cached cached)]
    have own := further.drive.trans changed.drive
    exact GeometryCache.get?_insert_own own
  have safe := transfer_safe record.drive direction sector count amid.sound
  apply Action.Ends.intro
  · intro moved after run
    rw [run] at stayed recorded
    obtain ⟨still, few⟩ := safe.of_ok run
    have begun := amid.begun
    exact ⟨Nat.le_succ_of_le few, by omega, still, recorded, stayed⟩
  · intro cause after run
    rw [run] at stayed
    exact stayed
  · intro reason after run
    rw [run] at stayed
    exact stayed

theorem carries_amid (plain : record.optical = false) :
    Carries record.drive direction stop
      (fun sector session => Amid resolved record direction first stop sector session)
      (fun _ after => Stayed resolved record direction first stop after)
      (fun _ after => Stayed resolved record direction first stop after) where
  transfer _ _ _ amid small wanted inside := amid.transfer_ends plain small wanted inside
  overflow _ _ amid _ := amid.stayed
  staged _ _ _ amid := ⟨amid.begun, amid.sound.channel _, amid.recorded, amid.stayed⟩

/-- A request on a drive that is read sector by sector, as the firmware sees it. Watching it changes
nothing; and from when the drive was met until the request ends, in whatever way, there are only
resets of the drive and transfers of sectors of the request. -/
theorem traffic_confined {settings : Settings} {firmware : σ} {session : Session σ}
    (reachable : Reachable settings firmware session) {disk : DiskHandle} {number : DriveNumber}
    {sector count : Nat} (handle : driveBehind disk = .ok number)
    (met : recordOf number session.watched = (.ok record, resolved))
    (plain : record.optical = false) (small : sector < UInt64.size)
    (accepted : checkRequest disk sector count = .ok ()) :
    (∀ buffer : Bytes, buffer.length = count * sectorSize →
      let run := read disk sector { buffer, state := session.watched }
      read disk sector { buffer, state := session } = (run.1, run.2.map unwatched) ∧
      ∃ asked, run.2.state.transcript = resolved.transcript ++ asked ∧
        ∀ exchange ∈ asked, exchange.Within record .read sector (sector + count)) ∧
    ∀ bytes : Bytes, bytes.length = count * sectorSize →
      let run := write disk sector bytes session.watched
      write disk sector bytes session = (run.1, run.2.unwatched) ∧
      ∃ asked, run.2.transcript = resolved.transcript ++ asked ∧
        ∀ exchange ∈ asked, exchange.Within record .write sector (sector + count) := by
  have sound := reachable.sound.watched
  obtain ⟨recorded, own⟩ := (recordOf_recorded number session.watched).of_ok met
  obtain ⟨still, -⟩ := (recordOf_safe number sound).of_ok met
  subst own
  have ready (direction : Direction) :
      Amid resolved record direction sector (sector + count) sector resolved :=
    ⟨Nat.le_refl sector, still, ⟨record, recorded, .refl record⟩, [], (List.append_nil _).symm,
      List.forall_mem_nil _⟩
  refine ⟨?_, ?_⟩
  · intro buffer whole run
    refine ⟨simulates_read Watched.simulation disk sector { buffer, state := session.watched }, ?_⟩
    have ends := (carries_amid plain).read { buffer, state := session.watched } handle met plain
      small whole accepted (ready .read)
    exact (ends.mono (fun _ _ amid => amid.stayed) (fun _ _ stayed => stayed)).left
  · intro bytes whole run
    refine ⟨simulates_write Watched.simulation disk sector bytes session.watched, ?_⟩
    have ends := (carries_amid plain).write handle met plain small whole accepted (ready .write)
    exact (ends.mono (fun _ _ amid => amid.stayed) (fun _ _ stayed => stayed)).left

def wokenSession : Session Machine :=
  ((Operation.resolve 0x80).run { faultySession with cache := {} }).2

theorem wokenSession_reachable :
    Reachable {} (Machine.attach {} 0x80 faultyDrive) wokenSession := by
  have begun : Reachable {} (Machine.attach {} 0x80 faultyDrive) { faultySession with cache := {} } :=
    .start rfl
  have refused : ((Operation.resolve 0x80).run { faultySession with cache := {} }).1 =
      .error (.unreachable "hd0") := by decide +kernel
  exact begun.step (.resolve 0x80) (by rw [refused]; nofun)

/-- The faulty drive is written across its bad sector. -/
theorem traffic_confined_faulty :
    ∃ record resolved asked,
      recordOf 0x80 wokenSession.watched = (.ok record, resolved) ∧
      (write faultyDisk 1999 (List.replicate 1536 7) wokenSession.watched).2.transcript =
        resolved.transcript ++ asked ∧
      ∀ exchange ∈ asked, exchange.Within record .write 1999 2002 := by
  have found : ∃ record ∈ faultySession.cache.records, record.optical = false ∧
      (recordOf 0x80 wokenSession.watched).1 = .ok record := by decide +kernel
  obtain ⟨record, -, plain, found⟩ := found
  rcases met : recordOf 0x80 wokenSession.watched with ⟨outcome, resolved⟩
  rw [met] at found
  dsimp only at found
  subst found
  have size : 1536 = 3 * sectorSize := rfl
  have whole : (List.replicate 1536 (7 : UInt8)).length = 3 * sectorSize := by
    rw [List.length_replicate, size]
  obtain ⟨-, written⟩ := traffic_confined wokenSession_reachable
    (show driveBehind faultyDisk = .ok 0x80 from rfl) met plain (show 1999 < UInt64.size by decide)
    (show checkRequest faultyDisk 1999 3 = .ok () from rfl)
  obtain ⟨-, asked, transcript, within⟩ := written (List.replicate 1536 7) whole
  exact ⟨record, resolved, asked, rfl, transcript, within⟩

end FirmwareDisk.Session
