import FirmwareDisk.Proofs.Session.Confinement
import FirmwareDisk.Proofs.Transfer.Learning

set_option autoImplicit false

namespace FirmwareDisk.Session

section Accesses

variable {σ τ : Type}

/-- A request that moves sectors of a drive. -/
inductive Access where
  | transfer (direction : Direction) (sector count : Nat)
  | read (disk : DiskHandle) (sector : Nat) (buffer : Bytes)
  | write (disk : DiskHandle) (sector : Nat) (bytes : Bytes)

/-- A request as an operation of a session. -/
def Access.operation (number : DriveNumber) : Access → Operation σ
  | .transfer direction sector count => .transfer number direction sector count
  | .read disk sector buffer => .read disk sector buffer
  | .write disk sector bytes => .write disk sector bytes

variable [Firmware σ] [Firmware τ]

/-- Serves requests one after the other, until one of them is refused. -/
def serve (number : DriveNumber) : List Access → Action (Session σ) DiskError Unit
  | [] => pure ()
  | access :: rest => do
    (access.operation number).run
    serve number rest

theorem simulates_serve {view : τ → σ} (simulation : Firmware.Simulation view)
    (number : DriveNumber) (accesses : List Access) :
    Action.Simulates (Session.map view) (serve number accesses) (serve number accesses) := by
  induction accesses with
  | nil => exact Action.simulates_pure _ _
  | cons access rest ih =>
    refine Action.Simulates.bind ?_ fun _ => ih
    cases access with
    | transfer direction sector count =>
      exact (simulates_transfer simulation number direction sector count).bind
        fun _ => Action.simulates_pure _ _
    | read disk sector buffer =>
      intro session
      have same := simulates_read simulation disk sector { buffer, state := session }
      simp only [Lent.map] at same
      simp only [Access.operation, Operation.run, Action.onPart, same]
    | write disk sector bytes => exact simulates_write simulation disk sector bytes

end Accesses

section Calls

variable {σ : Type} [Firmware σ]

/-- What a session comes to by transfers with a drive, and what each of them asked of the firmware. In
between, the staging buffer may be filled with anything. -/
inductive Calls (number : DriveNumber) (begun : Session (Watched σ)) :
    List (List Exchange) → Session (Watched σ) → Prop where
  | none : Calls number begun [] begun
  | transfer {calls : List (List Exchange)} {session : Session (Watched σ)}
      (before : Calls number begun calls session) (direction : Direction) (sector count : Nat)
      (asked : List Exchange)
      (transcript : (Session.transfer number direction sector count session).2.transcript =
        session.transcript ++ asked) :
      Calls number begun (calls ++ [asked]) (Session.transfer number direction sector count session).2
  | staged {calls : List (List Exchange)} {session : Session (Watched σ)}
      (before : Calls number begun calls session) (staging : Staging) :
      Calls number begun calls { session with channel := { session.channel with staging } }

theorem Calls.transcript {number : DriveNumber} {begun session : Session (Watched σ)}
    {calls : List (List Exchange)} (made : Calls number begun calls session) :
    session.transcript = begun.transcript ++ calls.flatten := by
  induction made with
  | none => exact (List.append_nil _).symm
  | transfer before direction sector count asked transcript ih =>
    rw [transcript, ih, List.flatten_append, List.flatten_singleton, List.append_assoc]
  | staged before staging ih => exact ih

end Calls

/-- Once a call has met a refusal, no attempt of a later call is refused, or longer than `most`. -/
def Sticks (most : Nat) (calls : List (List Exchange)) : Prop :=
  calls.Pairwise fun earlier later =>
    (∃ exchange ∈ earlier, exchange.refused = true) →
      ∀ exchange ∈ later, exchange.refused = false ∧ exchange.lent ≤ most * sectorSize

/-- A drive in order that moves `most` sectors at once, and a record that describes it. -/
structure Limited (record : Geometry) (drive : Drive) (most : Nat) : Prop
    extends record.Suits drive where
  calm : drive.transientFailures = 0
  ceiling : drive.ceiling = some most
  positive : 1 ≤ most

/-- A session after some calls, with what they have taught it. -/
structure Taught (record : Geometry) (drive : Drive) (most : Nat)
    (begun : Session (Watched Machine)) (calls : List (List Exchange))
    (session : Session (Watched Machine)) : Prop where
  made : Calls record.drive begun calls session
  attached : ∃ held, session.channel.firmware.firmware.drive? record.drive = some held ∧
    drive.Rewritten held
  recorded : ∃ settled, session.cache.get? record.drive = some settled ∧
    record.Settled settled ∧ settled.mode = record.mode ∧
    (1 ≤ settled.cap ∧ settled.cap ≤ 127) ∧
    ((∃ exchange ∈ calls.flatten, exchange.refused = true) → settled.cap ≤ most)
  heard : ∀ exchange ∈ calls.flatten, exchange = { request := .reset record.drive } ∨
    ∃ length, exchange.Tries record.drive length record.mode
  few : calls.flatten.countP Exchange.refused ≤ 3
  sticks : Sticks most calls

variable {record : Geometry} {drive : Drive} {most : Nat} {begun : Session (Watched Machine)}
  {calls : List (List Exchange)} {session : Session (Watched Machine)}

theorem Taught.staged (taught : Taught record drive most begun calls session) (staging : Staging) :
    Taught record drive most begun calls
      { session with channel := { session.channel with staging } } :=
  ⟨taught.made.staged staging, taught.attached, taught.recorded, taught.heard, taught.few,
    taught.sticks⟩

/-- What a call teaches is added to what was known before. -/
theorem Taught.call {settled last : Geometry} {after : Session (Watched Machine)} {held : Drive}
    {asked : List Exchange} (taught : Taught record drive most begun calls session)
    (changed : record.Settled settled) (mode : settled.mode = record.mode)
    (earlier : (∃ exchange ∈ calls.flatten, exchange.refused = true) → settled.cap ≤ most)
    (made : Calls record.drive begun (calls ++ [asked]) after)
    (attached : after.channel.firmware.firmware.drive? record.drive = some held)
    (rewritten : drive.Rewritten held)
    (recorded : after.cache.get? record.drive = some last)
    (lesson : Transfer.Lesson record.drive most settled asked last) :
    Taught record drive most begun (calls ++ [asked]) after where
  made := made
  attached := ⟨held, attached, rewritten⟩
  recorded := by
    refine ⟨last, recorded, changed.trans lesson.settled, lesson.mode.trans mode, lesson.cap, ?_⟩
    rintro ⟨exchange, member, refused⟩
    rw [List.flatten_append, List.flatten_singleton] at member
    rcases List.mem_append.mp member with before | now
    · exact (lesson.known (earlier ⟨exchange, before, refused⟩)).1
    · exact lesson.learned ⟨exchange, now, refused⟩
  heard exchange member := by
    rw [List.flatten_append, List.flatten_singleton] at member
    rcases List.mem_append.mp member with before | now
    · exact taught.heard exchange before
    · rw [← mode]
      exact lesson.heard exchange now
  few := by
    rw [List.flatten_append, List.flatten_singleton, List.countP_append]
    -- Refusals come from one call only: after the first of them nothing too long is tried.
    by_cases refused : ∃ exchange ∈ calls.flatten, exchange.refused = true
    · have granted : asked.countP Exchange.refused = 0 := by
        rw [List.countP_eq_zero]
        intro exchange member
        rw [((lesson.known (earlier refused)).2 exchange member).1]
        exact Bool.false_ne_true
      have few := taught.few
      omega
    · have granted : calls.flatten.countP Exchange.refused = 0 := by
        rw [List.countP_eq_zero]
        intro exchange member turned
        exact refused ⟨exchange, member, turned⟩
      have few := lesson.few
      omega
  sticks := by
    refine List.pairwise_append.mpr ⟨taught.sticks, List.pairwise_singleton _ _, ?_⟩
    intro call member later last
    rw [List.mem_singleton] at last
    subst last
    rintro ⟨exchange, inside, refused⟩
    exact (lesson.known
      (earlier ⟨exchange, List.mem_flatten_of_mem member inside, refused⟩)).2

/-- A call for sectors that the drive has succeeds, and is a lesson. -/
theorem Taught.transfer_ends {direction : Direction} {sector count : Nat}
    (taught : Taught record drive most begun calls session) (limited : Limited record drive most)
    (has : drive.Has record.mode sector count) :
    Action.Ends (transfer record.drive direction sector count) session
      (fun moved after => moved ≤ Staging.sectors ∧
        ∃ more, Taught record drive most begun more after)
      (fun _ _ => False) (fun _ _ => False) := by
  obtain ⟨settled, cached, changed, mode, cap, earlier⟩ := taught.recorded
  obtain ⟨held, attached, rewritten⟩ := taught.attached
  have own : settled.drive = record.drive := changed.drive
  have spent := rewritten.spent
  have commands : Link.Commands
      { record := settled, channel := session.channel.map Watched.firmware } held :=
    limited.commands changed (fun linear => mode ▸ linear) attached spent
  obtain ⟨medium, rfl, alike⟩ := rewritten
  have learns := transfer_learns session.settings direction
    { record := settled, channel := session.channel } commands limited.calm limited.ceiling
    limited.positive cap (by rw [mode]; exact spent.has has)
  have ends : Action.Ends (transfer record.drive direction sector count) session
      (fun moved after => moved ≤ Staging.sectors ∧ ∃ written asked last,
        after.channel.firmware.firmware.drive? record.drive = some written ∧
        drive.Rewritten written ∧ after.transcript = session.transcript ++ asked ∧
        after.cache.get? record.drive = some last ∧
        Transfer.Lesson record.drive most settled asked last)
      (fun _ _ => False) (fun _ _ => False) := by
    refine transfer_of_cached cached (learns.mono ?_ (fun _ _ never => never))
    intro moved link result
    obtain ⟨few, written, asked, there, ⟨content, same, again⟩, transcript, lesson⟩ := result
    rw [own] at there lesson
    refine ⟨few, written, asked, link.record, there, ?_, transcript, ?_, lesson⟩
    · exact ⟨content, same, again.trans alike⟩
    · rw [GeometryCache.get?_insert_own (lesson.settled.drive.trans own)]
  refine ends.with_run.mono ?_ (fun _ _ never => never)
  intro moved after result
  obtain ⟨run, few, written, asked, last, there, rewritten, transcript, recorded, lesson⟩ := result
  have same : after = (transfer record.drive direction sector count session).2 := by rw [run]
  have made : Calls record.drive begun (calls ++ [asked]) after := by
    rw [same] at transcript ⊢
    exact taught.made.transfer direction sector count asked transcript
  exact ⟨few, _, taught.call changed mode earlier made there rewritten recorded lesson⟩

theorem carries_taught (direction : Direction) (begun : Session (Watched Machine)) {stop : Nat}
    (limited : Limited record drive most)
    (fits : stop ≤ BlockDevice.totalSectors drive.medium)
    (addressed : record.mode = .chs → stop ≤ drive.addressed) :
    Carries record.drive direction stop
      (fun sector session => sector ≤ stop ∧ ∃ calls, Taught record drive most begun calls session)
      (fun _ _ => False) (fun _ _ => False) where
  transfer sector count session ready _ wanted inside := by
    obtain ⟨-, calls, taught⟩ := ready
    have has : drive.Has record.mode sector count :=
      ⟨Nat.le_trans inside fits, fun byAddress => Nat.le_trans inside (addressed byAddress)⟩
    refine (taught.transfer_ends limited has).with_run.mono ?_ (fun _ _ never => never)
    intro moved after result
    obtain ⟨run, few, more⟩ := result
    have bounds := transfer_moved wanted run
    exact ⟨few, by omega, more⟩
  overflow sector session ready far := by
    have size := limited.order.intact.size
    omega
  staged sector session staging ready := by
    obtain ⟨inside, calls, taught⟩ := ready
    exact ⟨inside, calls, taught.staged staging⟩

/-- Requests for sectors that a drive has; those that name a disk pass its checks. -/
inductive Access.Within (number : DriveNumber) (drive : Drive) (mode : Addressing) :
    Access → Prop where
  | transfer {direction : Direction} {sector count : Nat} (has : drive.Has mode sector count) :
      Within number drive mode (.transfer direction sector count)
  | read {disk : DiskHandle} {sector count : Nat} {buffer : Bytes}
      (handle : driveBehind disk = .ok number) (whole : buffer.length = count * sectorSize)
      (accepted : checkRequest disk sector count = .ok ()) (has : drive.Has mode sector count) :
      Within number drive mode (.read disk sector buffer)
  | write {disk : DiskHandle} {sector count : Nat} {bytes : Bytes}
      (handle : driveBehind disk = .ok number) (whole : bytes.length = count * sectorSize)
      (accepted : checkRequest disk sector count = .ok ()) (has : drive.Has mode sector count) :
      Within number drive mode (.write disk sector bytes)

theorem Access.Within.ends {access : Access}
    (within : access.Within record.drive drive record.mode) (limited : Limited record drive most)
    (taught : Taught record drive most begun calls session) :
    Action.Ends (access.operation record.drive).run session
      (fun _ after => ∃ more, Taught record drive most begun more after)
      (fun _ _ => False) (fun _ _ => False) := by
  obtain ⟨settled, cached, changed, -⟩ := taught.recorded
  have met := recordOf_cached cached
  have plain : settled.optical = false := changed.optical.trans limited.plain
  have size := limited.order.intact.size
  cases within with
  | transfer has =>
    refine (taught.transfer_ends limited has).bind ?_
    intro moved after result
    exact result.2
  | @read disk sector count buffer handle whole accepted has =>
    have fits := has.fits
    have carries := carries_taught .read begun limited fits has.addressed
    rw [Access.operation, Operation.run, Action.ends_onPart]
    have ends := carries.read { buffer, state := session } handle met plain (by omega) whole
      accepted ⟨Nat.le_add_right sector count, calls, taught⟩
    exact ends.mono (fun _ _ done => done.2) (fun _ _ never => never)
  | @write disk sector count bytes handle whole accepted has =>
    have fits := has.fits
    have carries := carries_taught .write begun limited fits has.addressed
    have ends := carries.write handle met plain (by omega) whole accepted
      ⟨Nat.le_add_right sector count, calls, taught⟩
    exact ends.mono (fun _ _ done => done.2) (fun _ _ never => never)

theorem Taught.serve_ends (limited : Limited record drive most) (accesses : List Access)
    (within : ∀ access ∈ accesses, access.Within record.drive drive record.mode)
    (taught : Taught record drive most begun calls session) :
    Action.Ends (serve record.drive accesses) session
      (fun _ after => ∃ more, Taught record drive most begun more after)
      (fun _ _ => False) (fun _ _ => False) := by
  induction accesses generalizing calls session with
  | nil => exact ⟨calls, taught⟩
  | cons access rest ih =>
    refine ((within access List.mem_cons_self).ends limited taught).bind ?_
    intro _ after result
    obtain ⟨more, further⟩ := result
    exact ih (fun later member => within later (List.mem_cons_of_mem access member)) further

/-- The first request meets the drive. If it was met before, the request finds the same. -/
theorem Access.Within.run_met {σ : Type} [Firmware σ] {session resolved : Session σ}
    {number : DriveNumber} {access : Access} (within : access.Within number drive record.mode)
    (met : recordOf number session = (.ok record, resolved)) (plain : record.optical = false)
    (cached : resolved.cache.get? number = some record) :
    (access.operation number).run session = (access.operation number).run resolved := by
  have again := recordOf_cached cached
  cases within with
  | transfer has =>
    apply Action.bind_congr
    rw [Session.transfer, Action.bind_of_ok met, Action.bind_of_ok again]
  | read handle whole accepted has =>
    have counted := sectorCount_of_mul whole
    simp only [Access.operation, Operation.run, Action.onPart]
    rw [read_accepted handle counted accepted met, read_accepted handle counted accepted again]
  | write handle whole accepted has =>
    have counted := sectorCount_of_mul whole
    simp only [Access.operation, Operation.run]
    rw [write_accepted handle counted accepted met plain,
      write_accepted handle counted accepted again plain]

/-- Any run of requests on a drive whose only fault is that it moves `most` sectors at once. All of
them succeed; at most three attempts are refused; the call that meets a refusal is the last one to
try more than `most` sectors; and the record keeps its mode, in which every attempt is made. The
transcript after the drive was met is cut into the calls of the engine. -/
theorem degradation_sticks {settings : Settings} {firmware : Machine} {session : Session Machine}
    (reachable : Reachable settings firmware session) {number : DriveNumber}
    (attached : session.channel.firmware.drive? number = some drive)
    (kind : drive.kind ≠ .optical) (order : drive.InOrder)
    (shape : Addressable drive.legacy.heads drive.legacy.sectors)
    (calm : drive.transientFailures = 0) (ceiling : drive.ceiling = some most)
    (positive : 1 ≤ most) {resolved : Session (Watched Machine)}
    (met : recordOf number session.watched = (.ok record, resolved))
    (heads : record.heads = drive.legacy.heads) (sectors : record.sectors = drive.legacy.sectors)
    (extended : record.mode = .lba → drive.extensions = true) (accesses : List Access)
    (within : ∀ access ∈ accesses, access.Within number drive record.mode) :
    (serve number accesses session = ((serve number accesses session.watched).1,
      (serve number accesses session.watched).2.unwatched)) ∧
    (accesses ≠ [] → serve number accesses session.watched = serve number accesses resolved) ∧
    ∃ after calls, serve number accesses resolved = (.ok (), after) ∧
      Calls number resolved calls after ∧
      after.transcript = resolved.transcript ++ calls.flatten ∧
      (∀ exchange ∈ calls.flatten, exchange = { request := .reset number } ∨
        ∃ length, exchange.Tries number length record.mode) ∧
      calls.flatten.countP Exchange.refused ≤ 3 ∧ Sticks most calls ∧
      ∃ settled, after.cache.get? number = some settled ∧ settled.mode = record.mode := by
  obtain ⟨cached, own⟩ := (recordOf_recorded number session.watched).of_ok met
  obtain ⟨-, -, known⟩ := (recordOf_safe number reachable.sound.watched).of_ok met
  have calmly : Action.Ends (recordOf number) (session.watched.map Watched.firmware)
      (fun _ after => after.channel.firmware.drive? number = some drive)
      (fun _ after => after.channel.firmware.drive? number = some drive) (fun _ _ => False) :=
    recordOf_calm attached shape calm
  have still : resolved.channel.firmware.firmware.drive? number = some drive :=
    (Action.Simulates.ends (simulates_recordOf Watched.simulation number) calmly).of_ok met
  have plain : record.optical = false := by
    rw [← Bool.not_eq_true]
    intro optical
    have notLba := (known.opticalMode optical).2
    have heads := shape.heads_pos
    omega
  subst own
  have limited : Limited record drive most :=
    ⟨⟨plain, ⟨kind, heads, sectors, shape⟩, order, extended⟩, calm, ceiling, positive⟩
  -- Before the first request nothing has been refused, so there is nothing to have learned.
  have ready : Taught record drive most resolved [] resolved := {
    made := .none
    attached := ⟨drive, still, drive.medium, rfl, .refl drive.medium⟩
    recorded := ⟨record, cached, .refl record, rfl, known.cap, by simp⟩
    heard := List.forall_mem_nil _
    few := Nat.zero_le 3
    sticks := .nil }
  refine ⟨simulates_serve Watched.simulation record.drive accesses session.watched, ?_, ?_⟩
  · intro nonempty
    obtain ⟨first, rest, rfl⟩ := List.exists_cons_of_ne_nil nonempty
    have same := (within first List.mem_cons_self).run_met met plain cached
    exact Action.bind_congr same
  · obtain ⟨_, after, run, calls, taught⟩ | ⟨_, _, _, never⟩ | ⟨_, _, _, never⟩ :=
      (ready.serve_ends limited accesses within).cases
    · obtain ⟨settled, recorded, -, mode, -⟩ := taught.recorded
      exact ⟨after, calls, run, taught.made, taught.made.transcript, taught.heard, taught.few,
        taught.sticks, settled, recorded, mode⟩
    · exact never.elim
    · exact never.elim

def shortDrive : Drive :=
  { Drive.fixed { store := .memory { totalSectors := 4096 } } with ceiling := some 7 }

/-- A session with the short drive, before it was met. -/
def shortSession : Session Machine where
  channel := {
    firmware := Machine.attach {} 0x80 shortDrive
    staging := Staging.empty 0x6800 }
  settings := {}
  opticalDrive := none

/-- A long read of the short drive and a transfer behind it. -/
theorem degradation_sticks_short :
    ∃ (resolved after : Session (Watched Machine)) (calls : List (List Exchange)),
      serve 0x80 [.read faultyDisk 100 (List.replicate 10240 0), .transfer .write 7 90] resolved =
        (.ok (), after) ∧
      Calls 0x80 resolved calls after ∧ calls.flatten.countP Exchange.refused ≤ 3 ∧
      Sticks 7 calls := by
  have reachable : Reachable {} (Machine.attach {} 0x80 shortDrive) shortSession := .start rfl
  have attached : shortSession.channel.firmware.drive? 0x80 = some shortDrive := by
    rw [shortSession, Machine.drive?_attach, if_pos rfl]
  have order : shortDrive.InOrder := ⟨rfl, rfl, rfl, ⟨_, rfl, rfl⟩, by decide⟩
  have shape : Addressable shortDrive.legacy.heads shortDrive.legacy.sectors :=
    ⟨by decide, by decide, by decide, by decide⟩
  have found : ∃ record ∈ faultySession.cache.records,
      (recordOf 0x80 shortSession.watched).1 = .ok record := by decide +kernel
  obtain ⟨record, member, found⟩ := found
  rcases met : recordOf 0x80 shortSession.watched with ⟨outcome, resolved⟩
  rw [met] at found
  dsimp only at found
  subst found
  have drawn : ∀ record ∈ faultySession.cache.records, record.mode = .lba ∧
      record.heads = shortDrive.legacy.heads ∧ record.sectors = shortDrive.legacy.sectors := by
    decide
  obtain ⟨mode, heads, sectors⟩ := drawn record member
  have size : 10240 = 20 * sectorSize := rfl
  have whole : (List.replicate 10240 (0 : UInt8)).length = 20 * sectorSize := by
    rw [List.length_replicate, size]
  have has (sector count : Nat) (fits : sector + count ≤ 4096) :
      shortDrive.Has record.mode sector count := by
    refine ⟨fits, ?_⟩
    rw [mode]
    nofun
  have within : ∀ access ∈ [Access.read faultyDisk 100 (List.replicate 10240 0),
      .transfer .write 7 90], access.Within 0x80 shortDrive record.mode := by
    intro access member
    simp only [List.mem_cons, List.not_mem_nil, or_false] at member
    rcases member with rfl | rfl
    · exact .read rfl whole rfl (has 100 20 (by decide))
    · exact .transfer (has 7 90 (by decide))
  obtain ⟨-, -, after, calls, run, made, -, -, few, sticks, -⟩ := degradation_sticks reachable
    attached nofun order shape rfl rfl (show 1 ≤ 7 by decide) met heads sectors (fun _ => rfl) _
    within
  exact ⟨resolved, after, calls, run, made, few, sticks⟩

end FirmwareDisk.Session
