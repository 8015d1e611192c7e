import FirmwareDisk.Proofs.Session.Carrying
import FirmwareDisk.Proofs.Session.Operations
import FirmwareDisk.Proofs.Transfer.Absorption

set_option autoImplicit false

namespace FirmwareDisk.Session

/-- The requests that survive a pending failure of their drive. -/
def Absorbs (record : Geometry) (drive : Drive) (sector count : Nat) : Prop :=
  count = 0 ∨ 2 ≤ (Rung.top record sector count).length ∨
    record.mode = .lba ∧ sector + count ≤ drive.addressed

instance (record : Geometry) (drive : Drive) (sector count : Nat) :
    Decidable (Absorbs record drive sector count) :=
  inferInstanceAs (Decidable (_ ∨ _ ∨ _ ∧ _))

section Links

variable {record : Geometry} {drive : Drive} {stop : Nat} {session : Session Machine}

/-- A session whose drive lets every transfer through, and can serve the sectors up to `stop` in the
mode that its record has come down to. -/
def Mended (record : Geometry) (drive : Drive) (stop : Nat) (session : Session Machine) : Prop :=
  ∃ settled, session.cache.get? record.drive = some settled ∧
    Link.Recovered record drive { record := settled, channel := session.channel } ∧
    (settled.mode = .chs → stop ≤ drive.addressed)

/-- A session that has come down to addresses, of which the drive has `limit`. -/
def Fallen (record : Geometry) (limit : Nat) (session : Session Machine) : Prop :=
  ∃ settled, session.cache.get? record.drive = some settled ∧
    Link.ByAddress record limit { record := settled, channel := session.channel }

theorem Mended.staged (mended : Mended record drive stop session) (staging : Staging) :
    Mended record drive stop { session with channel := { session.channel with staging } } := by
  obtain ⟨settled, cached, recovered, addressed⟩ := mended
  exact ⟨settled, cached, ⟨recovered.settled, recovered.cap, recovered.mode, recovered.held⟩,
    addressed⟩

theorem Fallen.staged {limit : Nat} (fallen : Fallen record limit session) (staging : Staging) :
    Fallen record limit { session with channel := { session.channel with staging } } := by
  obtain ⟨settled, cached, changed, mode, held, reaches, addressed⟩ := fallen
  exact ⟨settled, cached, changed, mode, held,
    ⟨reaches.plain, reaches.attached, reaches.describes⟩, addressed⟩

theorem Mended.transfer_ends {direction : Direction} {sector count : Nat}
    (mended : Mended record drive stop session) (suits : record.Suits drive) (wanted : 0 < count)
    (inside : sector + count ≤ stop) (fits : stop ≤ BlockDevice.totalSectors drive.medium) :
    Action.Ends (transfer record.drive direction sector count) session
      (fun moved after => moved ≤ Staging.sectors ∧ Mended record drive stop after)
      (fun _ _ => False) (fun _ _ => False) := by
  obtain ⟨settled, cached, recovered, addressed⟩ := mended
  obtain ⟨held, attached, spent, calm⟩ := recovered.held
  have commands : Link.Commands { record := settled, channel := session.channel } held :=
    suits.commands recovered.settled recovered.mode attached spent
  have has : drive.Has settled.mode sector count :=
    ⟨Nat.le_trans inside fits, fun byAddress => Nat.le_trans inside (addressed byAddress)⟩
  refine transfer_of_cached cached ((transfer_calm session.settings direction commands calm
    recovered.cap wanted (spent.has has)).mono ?_ (fun _ _ never => never))
  intro moved link result
  obtain ⟨room, further, mode⟩ := result
  have changed := recovered.settled.trans further.settled
  obtain ⟨last, there, again, still⟩ := further.held
  have own : settled.drive = record.drive := recovered.settled.drive
  refine ⟨room, link.record, ?_, ⟨changed, further.cap, ?_, last, ?_, spent.trans again, still⟩, ?_⟩
  · rw [GeometryCache.get?_insert_own changed.drive]
  · intro linear
    exact recovered.mode (further.mode linear)
  · rw [← own]
    exact there
  · intro byAddress
    exact addressed (mode ▸ byAddress)

theorem Fallen.transfer_ends {direction : Direction} {sector count limit : Nat}
    (fallen : Fallen record limit session) (small : sector < UInt64.size) (wanted : 0 < count) :
    Action.Ends (transfer record.drive direction sector count) session
      (fun moved after => moved ≤ Staging.sectors ∧ sector + moved ≤ limit ∧
        Fallen record limit after)
      (fun _ _ => True) (fun _ _ => False) := by
  obtain ⟨settled, cached, byAddress⟩ := fallen
  refine transfer_of_cached cached ((transfer_byAddress session.settings direction byAddress small
    wanted).mono ?_ (fun _ _ done => done))
  intro moved link result
  obtain ⟨room, inside, further⟩ := result
  refine ⟨room, inside, link.record, ?_, further⟩
  rw [GeometryCache.get?_insert_own further.settled.drive]

/-- Once the failure is spent, a request goes on to its end. -/
theorem carries_mended (direction : Direction) (suits : record.Suits drive)
    (fits : stop ≤ BlockDevice.totalSectors drive.medium) :
    Carries record.drive direction stop
      (fun sector session => sector = stop ∨ sector ≤ stop ∧ Mended record drive stop session)
      (fun _ _ => False) (fun _ _ => False) where
  transfer sector count session ready _ wanted inside := by
    rcases ready with done | ⟨-, mended⟩
    · omega
    · refine (mended.transfer_ends suits wanted inside fits).with_run.mono ?_
        (fun _ _ never => never)
      intro moved after result
      obtain ⟨run, room, further⟩ := result
      have bounds := transfer_moved wanted run
      exact ⟨room, Or.inr ⟨by omega, further⟩⟩
  overflow sector session ready far := by
    have size := suits.order.intact.size
    omega
  staged sector session staging ready :=
    ready.imp_right fun further => ⟨further.1, further.2.staged staging⟩

end Links

/-- A session that has met a drive, of which a failure is pending. -/
structure Struck (record : Geometry) (drive : Drive) (session : Session Machine) : Prop where
  cached : session.cache.get? record.drive = some record
  attached : session.channel.firmware.drive? record.drive = some drive
  tripped : drive.Tripped
  suits : record.Suits drive
  cap : 1 ≤ record.cap ∧ record.cap ≤ 127
  chsCap : record.chsCap ≤ 127

namespace Struck

variable {record : Geometry} {drive : Drive} {session : Session Machine} {sector count : Nat}

theorem commands (struck : Struck record drive session) :
    Link.Commands { record, channel := session.channel } drive :=
  struck.suits.commands (.refl record) id struck.attached
    (.intro drive.medium drive.transientFailures (.refl drive.medium))

theorem staged (struck : Struck record drive session) (staging : Staging) :
    Struck record drive { session with channel := { session.channel with staging } } :=
  ⟨struck.cached, struck.attached, struck.tripped, struck.suits, struck.cap, struck.chsCap⟩

/-- The transfer that meets the failure gets past it, if the request it belongs to survives. -/
theorem absorbs {direction : Direction} {part : Nat} (struck : Struck record drive session)
    (has : drive.Has record.mode sector count) (wanted : 0 < part) (less : part ≤ count)
    (whole : Rung.top record sector part = Rung.top record sector count)
    (absorbs : Absorbs record drive sector count) :
    Action.Ends (transfer record.drive direction sector part) session
      (fun moved after => moved ≤ Staging.sectors ∧
        (sector + moved = sector + count ∨
          sector + moved ≤ sector + count ∧ Mended record drive (sector + count) after))
      (fun _ _ => False) (fun _ _ => False) := by
  have shelter : 2 ≤ (Rung.top record sector part).length ∨
      record.mode = .lba ∧ sector + part ≤ drive.addressed := by
    rw [whole]
    rcases absorbs with nothing | long | ⟨linear, addressed⟩
    · omega
    · exact Or.inl long
    · exact Or.inr ⟨linear, by omega⟩
  -- Only the first transfer meets the failure; a single sector falls back to its address.
  have ends : Action.Ends (transfer record.drive direction sector part) session
      (fun moved after => moved ≤ Staging.sectors ∧ Mended record drive (sector + count) after)
      (fun _ _ => False) (fun _ _ => False) := by
    refine transfer_of_cached struck.cached ((transfer_absorbs session.settings direction
      struck.commands struck.tripped struck.cap struck.chsCap wanted (has.shorten less)
      shelter).mono ?_ (fun _ _ never => never))
    intro moved link result
    obtain ⟨room, recovered, mode⟩ := result
    refine ⟨room, link.record, ?_, recovered, ?_⟩
    · rw [GeometryCache.get?_insert_own recovered.settled.drive]
    · intro byAddress
      rcases mode with same | single
      · exact has.addressed (same ▸ byAddress)
      · rw [whole] at single
        rcases absorbs with nothing | long | ⟨-, addressed⟩
        · omega
        · omega
        · exact addressed
  refine ends.with_run.mono ?_ (fun _ _ never => never)
  intro moved after result
  obtain ⟨run, room, mended⟩ := result
  have bounds := transfer_moved wanted run
  exact ⟨room, Or.inr ⟨by omega, mended⟩⟩

/-- A request that begins with a single sector goes on only where the drive has addresses. -/
theorem carries (direction : Direction) (struck : Struck record drive session)
    (has : drive.Has record.mode sector count)
    (single : (Rung.top record sector count).length < 2) :
    Carries record.drive direction (sector + count)
      (fun place state => (place = sector ∧ Struck record drive state) ∨
        record.mode = .lba ∧ place ≤ drive.addressed ∧ Fallen record drive.addressed state)
      (fun _ _ => True) (fun _ _ => False) where
  transfer place part state ready small wanted inside := by
    rcases ready with ⟨rfl, struck⟩ | ⟨linear, -, fallen⟩
    · have first : (Rung.top record place part).length < 2 := by
        simp only [Rung.top] at single ⊢
        split at single <;> split <;> omega
      refine transfer_of_cached struck.cached ((transfer_unsheltered state.settings direction
        struck.commands struck.tripped struck.chsCap wanted (has.shorten (by omega)) first).mono ?_
        (fun _ _ done => done))
      intro moved link result
      obtain ⟨room, linear, addressed, byAddress⟩ := result
      refine ⟨room, Or.inr ⟨linear, addressed, link.record, ?_, byAddress⟩⟩
      rw [GeometryCache.get?_insert_own byAddress.settled.drive]
    · refine (fallen.transfer_ends small wanted).mono ?_ (fun _ _ done => done)
      intro moved after result
      obtain ⟨room, addressed, further⟩ := result
      exact ⟨room, Or.inr ⟨linear, addressed, further⟩⟩
  overflow place state ready far := by
    have size := struck.suits.order.intact.size
    have fits := has.fits
    rcases ready with ⟨rfl, -⟩ | ⟨-, near, -⟩
    · omega
    · have bound := drive.addressed_le struck.suits.describes.shape
      have limit : Geometry.addressableSectors = 1024 * 256 * 63 := rfl
      have words : UInt64.size = 2 ^ 64 := rfl
      omega
  staged place state staging ready := by
    rcases ready with ⟨same, struck⟩ | ⟨linear, near, fallen⟩
    · exact Or.inl ⟨same, struck.staged staging⟩
    · exact Or.inr ⟨linear, near, fallen.staged staging⟩

section Requests

variable {disk : DiskHandle}

/-- A request by which a drive is read survives the failure, or fails. -/
theorem read_ends (struck : Struck record drive session) (handle : driveBehind disk = .ok record.drive)
    (accepted : checkRequest disk sector count = .ok ()) (has : drive.Has record.mode sector count)
    {buffer : Bytes} (whole : buffer.length = count * sectorSize) :
    Action.Ends (read disk sector) { buffer, state := session }
      (fun _ _ => Absorbs record drive sector count)
      (fun _ _ => ¬ Absorbs record drive sector count) (fun _ _ => False) := by
  have met := recordOf_cached struck.cached
  have plain := struck.suits.plain
  have size := struck.suits.order.intact.size
  have fits := has.fits
  by_cases absorbed : Absorbs record drive sector count
  · have carried := carries_mended .read struck.suits fits
    by_cases empty : count = 0
    · subst empty
      exact (carried.read { buffer, state := session } handle met plain (by omega) whole accepted
        (Or.inl rfl)).mono (fun _ _ _ => absorbed) (fun _ _ never => never.elim)
    · have wanted := Nat.pos_of_ne_zero empty
      exact (carried.read_from { buffer, state := session } handle met plain wanted whole accepted
        (struck.absorbs has wanted (Nat.le_refl count) rfl absorbed)).mono (fun _ _ _ => absorbed)
        (fun _ _ never => never.elim)
  · have single : (Rung.top record sector count).length < 2 := by
      rw [← Nat.not_le]
      exact fun long => absorbed (Or.inr (Or.inl long))
    refine ((struck.carries .read has single).read { buffer, state := session } handle met plain
      (by omega) whole accepted (Or.inl ⟨rfl, struck⟩)).mono ?_ (fun _ _ _ => absorbed)
    intro _ after ended
    rcases ended with ⟨same, -⟩ | ⟨linear, near, -⟩
    · exact Or.inl (by omega)
    · exact Or.inr (Or.inr ⟨linear, near⟩)

/-- A request by which a drive is written survives the failure, or fails. -/
theorem write_ends (struck : Struck record drive session)
    (handle : driveBehind disk = .ok record.drive)
    (accepted : checkRequest disk sector count = .ok ()) (has : drive.Has record.mode sector count)
    {bytes : Bytes} (whole : bytes.length = count * sectorSize) :
    Action.Ends (write disk sector bytes) session
      (fun _ _ => Absorbs record drive sector count)
      (fun _ _ => ¬ Absorbs record drive sector count) (fun _ _ => False) := by
  have met := recordOf_cached struck.cached
  have plain := struck.suits.plain
  have size := struck.suits.order.intact.size
  have fits := has.fits
  by_cases absorbed : Absorbs record drive sector count
  · have carried := carries_mended .write struck.suits fits
    by_cases empty : count = 0
    · subst empty
      exact (carried.write handle met plain (by omega) whole accepted (Or.inl rfl)).mono
        (fun _ _ _ => absorbed) (fun _ _ never => never.elim)
    · have wanted := Nat.pos_of_ne_zero empty
      have longest : Geometry.longestTransfer = 127 := rfl
      refine (carried.write_from handle met plain wanted whole accepted ?_).mono
        (fun _ _ _ => absorbed) (fun _ _ never => never.elim)
      intro staging
      exact (struck.staged staging).absorbs has (by omega) (Nat.min_le_left _ _)
        (Rung.top_min struck.cap.2 sector count) absorbed
  · have single : (Rung.top record sector count).length < 2 := by
      rw [← Nat.not_le]
      exact fun long => absorbed (Or.inr (Or.inl long))
    refine ((struck.carries .write has single).write handle met plain (by omega) whole accepted
      (Or.inl ⟨rfl, struck⟩)).mono ?_ (fun _ _ _ => absorbed)
    intro _ after ended
    rcases ended with ⟨same, -⟩ | ⟨linear, near, -⟩
    · exact Or.inl (by omega)
    · exact Or.inr (Or.inr ⟨linear, near⟩)

end Requests

end Struck

/-- A request to a drive that has a record and is in order but for one pending failure. If it begins
with two sectors or more, or can be served by address as well as by linear number, it succeeds.
Otherwise the failure is passed on to the caller. -/
theorem pending_failure_absorbed {settings : Settings} {firmware : Machine}
    {session : Session Machine} (reachable : Reachable settings firmware session)
    {number : DriveNumber} {drive : Drive} {record : Geometry}
    (attached : session.channel.firmware.drive? number = some drive)
    (kind : drive.kind ≠ .optical) (order : drive.InOrder)
    (shape : Addressable drive.legacy.heads drive.legacy.sectors)
    (pending : drive.transientFailures = 1) (ceiling : drive.ceiling = none)
    (cached : session.cache.get? number = some record)
    (heads : record.heads = drive.legacy.heads) (sectors : record.sectors = drive.legacy.sectors)
    (extended : record.mode = .lba → drive.extensions = true) {disk : DiskHandle}
    {sector count : Nat} (handle : driveBehind disk = .ok number)
    (accepted : checkRequest disk sector count = .ok ())
    (has : drive.Has record.mode sector count) :
    (∀ buffer : Bytes, buffer.length = count * sectorSize →
      (Absorbs record drive sector count →
        (read disk sector { buffer, state := session }).1 = .ok ()) ∧
      (¬ Absorbs record drive sector count →
        ∃ cause, (read disk sector { buffer, state := session }).1 = .error cause)) ∧
    ∀ bytes : Bytes, bytes.length = count * sectorSize →
      (Absorbs record drive sector count → (write disk sector bytes session).1 = .ok ()) ∧
      (¬ Absorbs record drive sector count →
        ∃ cause, (write disk sector bytes session).1 = .error cause) := by
  obtain ⟨member, own⟩ := GeometryCache.get?_some cached
  have known := reachable.sound.records record member
  have plain : record.optical = false := by
    rw [← Bool.not_eq_true]
    intro optical
    have notLba := (known.opticalMode optical).2
    have heads := shape.heads_pos
    omega
  subst own
  have struck : Struck record drive session :=
    ⟨cached, attached, ⟨pending, ceiling⟩, ⟨plain, ⟨kind, heads, sectors, shape⟩, order, extended⟩,
      known.cap, known.chsCap.2⟩
  refine ⟨fun buffer whole => ?_, fun bytes whole => ?_⟩
  · obtain ⟨succeeds, fails⟩ := (struck.read_ends handle accepted has whole).decided
    exact ⟨fun absorbed => (succeeds absorbed).elim fun _ ok => ok, fails⟩
  · obtain ⟨succeeds, fails⟩ := (struck.write_ends handle accepted has whole).decided
    exact ⟨fun absorbed => (succeeds absorbed).elim fun _ ok => ok, fails⟩

/-- A session with a drive whose next transfer is going to fail. -/
def spoiled (session : Session Machine) (number : DriveNumber) : Session Machine :=
  ((Operation.disturb fun machine => machine.injectFailures number 1).run session).2

theorem spoiled_attached {session : Session Machine} {number : DriveNumber} {drive : Drive}
    (attached : session.channel.firmware.drive? number = some drive) :
    (session.spoiled number).channel.firmware.drive? number =
      some { drive with transientFailures := 1 } :=
  Machine.drive?_injectFailures attached 1

def floppyDrive : Drive :=
  .floppy { store := .memory { totalSectors := 2880 } }

def floppyMachine : Machine :=
  Machine.attach {} 0 floppyDrive

/-- The floppy drive, opened. -/
def floppyDisk : DiskHandle where
  name := "fd0"
  backend := "biosdisk"
  id := 0
  totalSectors := 36864
  hasPartitions := true

/-- A session with the floppy drive. -/
def floppySession : Session Machine where
  channel := { firmware := floppyMachine, staging := Staging.empty 0x6800 }
  settings := {}
  opticalDrive := none

def struckSession : Session Machine :=
  ((Operation.resolve 0).run floppySession).2.spoiled 0

theorem struckSession_reachable : Reachable {} floppyMachine struckSession := by
  have begun : Reachable {} floppyMachine floppySession := .start rfl
  have met : ((Operation.resolve 0).run floppySession).1 = .ok () := by decide +kernel
  have reached := begun.step (.resolve 0) (by rw [met]; nofun)
  exact reached.step (.disturb fun machine => machine.injectFailures 0 1) nofun

/-- The record of the floppy drive. -/
def floppyRecord : Geometry where
  drive := 0
  mode := .chs
  optical := false
  fbOverride := false
  sectors := 18
  heads := 2
  cylinders := 1024
  cap := 63
  chsCap := 63
  totalSectors := 36864

/-- The failure shows when the first sector of the floppy disk is read, and does not when the first two
are. -/
theorem pending_failure_absorbed_floppy :
    (∃ cause, (read floppyDisk 0 { buffer := List.replicate 512 0, state := struckSession }).1 =
      .error cause) ∧
    (read floppyDisk 0 { buffer := List.replicate 1024 0, state := struckSession }).1 = .ok () := by
  have shape : Addressable floppyDrive.legacy.heads floppyDrive.legacy.sectors :=
    ⟨by decide, by decide, by decide, by decide⟩
  have begun : floppySession.channel.firmware.drive? 0 = some floppyDrive := by
    rw [floppySession, floppyMachine, Machine.drive?_attach, if_pos rfl]
  have attached : struckSession.channel.firmware.drive? 0 =
      some { floppyDrive with transientFailures := 1 } := by
    rw [struckSession]
    exact spoiled_attached (resolve_calm begun shape rfl)
  have order : ({ floppyDrive with transientFailures := 1 } : Drive).InOrder :=
    ⟨rfl, rfl, rfl, ⟨_, rfl, rfl⟩, by decide⟩
  have cached : struckSession.cache.get? 0 = some floppyRecord := by decide +kernel
  have has (count : Nat) (few : count ≤ 2880) :
      ({ floppyDrive with transientFailures := 1 } : Drive).Has floppyRecord.mode 0 count :=
    ⟨(Nat.zero_add count).symm ▸ few, fun _ => (Nat.zero_add count).symm ▸ few⟩
  obtain ⟨one, -⟩ := pending_failure_absorbed struckSession_reachable attached nofun order shape rfl
    rfl cached rfl rfl nofun (show driveBehind floppyDisk = .ok 0 from rfl)
    (show checkRequest floppyDisk 0 1 = .ok () from rfl) (has 1 (by decide))
  obtain ⟨two, -⟩ := pending_failure_absorbed struckSession_reachable attached nofun order shape rfl
    rfl cached rfl rfl nofun (show driveBehind floppyDisk = .ok 0 from rfl)
    (show checkRequest floppyDisk 0 2 = .ok () from rfl) (has 2 (by decide))
  refine ⟨(one (List.replicate 512 0) List.length_replicate).2 ?_,
    (two (List.replicate 1024 0) List.length_replicate).1 ?_⟩
  · decide
  · decide

/-- The error that the caller sees is that of a disk that cannot be read. -/
theorem pending_failure_shows :
    (read floppyDisk 0 { buffer := List.replicate 512 0, state := struckSession }).1 =
      .error (.readFailed "fd0") := by
  decide +kernel

end FirmwareDisk.Session
