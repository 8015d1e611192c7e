import FirmwareDisk.Machine.Services
import FirmwareDisk.Proofs.Firmware.Packet
import FirmwareDisk.Proofs.Geometry.Address
import FirmwareDisk.Proofs.Medium.Requests

set_option autoImplicit false

namespace FirmwareDisk

def Direction.sent : Direction → Bytes → Bytes
  | .read, _ => []
  | .write, buffer => buffer

/-- What a transfer leaves in the buffer, given what is on the medium. -/
def Direction.left : Direction → Bytes → Bytes → Bytes
  | .read, held, _ => held
  | .write, _, buffer => buffer

namespace Drive

/-- A drive whose medium was written, and which is otherwise as it was but for pending failures. -/
structure Patched (start : Nat) (bytes : Bytes) (before after : Drive) : Prop where
  rest : ∃ medium pending, after = { before with medium, transientFailures := pending }
  alike : after.medium.Alike before.medium
  flat : after.medium.flat = before.medium.flat.patch start bytes
  untouched : bytes = [] → after.medium = before.medium

namespace Patched

variable {start : Nat} {bytes : Bytes} {before after : Drive}

theorem refl (start : Nat) (drive : Drive) : Patched start [] drive drive where
  rest := ⟨drive.medium, drive.transientFailures, rfl⟩
  alike := .refl drive.medium
  flat := (Flat.patch_nil _ start).symm
  untouched _ := rfl

theorem append {front back : Bytes} {first second third : Drive}
    (former : Patched start front first second)
    (latter : Patched (start + front.length) back second third) :
    Patched start (front ++ back) first third where
  rest := by
    obtain ⟨_, _, rfl⟩ := former.rest
    exact latter.rest
  alike := latter.alike.trans former.alike
  flat := by rw [latter.flat, former.flat, Flat.patch_append]
  untouched empty := by
    obtain ⟨noFront, noBack⟩ := List.append_eq_nil_iff.mp empty
    rw [latter.untouched noBack, former.untouched noFront]

theorem anywhere (patched : Patched start [] before after) (other : Nat) :
    Patched other [] before after where
  rest := patched.rest
  alike := patched.alike
  flat := by rw [patched.flat, Flat.patch_nil, Flat.patch_nil]
  untouched := patched.untouched

theorem kind (patched : Patched start bytes before after) : after.kind = before.kind := by
  obtain ⟨_, _, rfl⟩ := patched.rest
  rfl

theorem legacy (patched : Patched start bytes before after) : after.legacy = before.legacy := by
  obtain ⟨_, _, rfl⟩ := patched.rest
  rfl

theorem totalSectors (patched : Patched start bytes before after) :
    BlockDevice.totalSectors after.medium = BlockDevice.totalSectors before.medium :=
  patched.alike.totalSectors

end Patched

/-- A refused transfer: at most one pending failure is used up. -/
inductive Refused (before after : Lent Drive) : Prop where
  | unchanged (same : after = before)
  | expected (pending : Nat) (counted : before.state.transientFailures = pending + 1)
      (rest : after = { before with state := { before.state with transientFailures := pending } })

/-- A transfer that was refused, or a read that began at a sector asked for and that the host of the
medium broke off. -/
inductive Failed (direction : Direction) (Asked : Nat → Prop) (before after : Lent Drive) :
    Prop where
  | refused (refused : Refused before after)
  | brokenOff (start : Nat) (asked : Asked start) (reading : direction = .read)
      (state : after.state = before.state)
      (broken : before.state.medium.BrokenOff (start * sectorSize) before.buffer after.buffer)

namespace Failed

variable {direction : Direction} {Asked : Nat → Prop} {before after : Lent Drive}

theorem unchanged (same : after = before) : Failed direction Asked before after :=
  .refused (.unchanged same)

theorem asked {Other : Nat → Prop} (failed : Failed direction Asked before after)
    (wider : ∀ start, Asked start → Other start) : Failed direction Other before after := by
  cases failed with
  | refused refused => exact .refused refused
  | brokenOff start asked reading state broken =>
    exact .brokenOff start (wider start asked) reading state broken

theorem length_eq (failed : Failed direction Asked before after) :
    after.buffer.length = before.buffer.length := by
  obtain (same | ⟨_, _, same⟩) | ⟨_, _, _, _, broken⟩ := failed
  · rw [same]
  · rw [same]
  · exact broken.length_eq

theorem buffer_of_write (failed : Failed direction Asked before after)
    (writing : direction = .write) : after.buffer = before.buffer := by
  obtain (same | ⟨_, _, same⟩) | ⟨_, _, reading, _, _⟩ := failed
  · rw [same]
  · rw [same]
  · rw [writing] at reading
    cases reading

theorem patched (failed : Failed direction Asked before after) (start : Nat) :
    Patched start [] before.state after.state := by
  obtain (same | ⟨pending, -, rfl⟩) | ⟨_, _, _, same, _⟩ := failed
  · rw [same]
    exact .refl start before.state
  · exact ⟨⟨_, pending, rfl⟩, .refl _, (Flat.patch_nil _ start).symm, fun _ => rfl⟩
  · rw [same]
    exact .refl start before.state

end Failed

/-- A transfer of the sectors from a given one on, as many as the buffer has room for. -/
structure Moved (direction : Direction) (sector : Nat) (before after : Lent Drive) : Prop where
  inside : Inside sector before.buffer.length before.state.medium.totalSectors
  buffer : after.buffer = direction.left
    (before.state.medium.flat.slice (sector * sectorSize) before.buffer.length) before.buffer
  patched : Patched (sector * sectorSize) (direction.sent before.buffer) before.state after.state

theorem move_ends (direction : Direction) (sector : Nat) (lent : Lent Drive) :
    Action.Ends (move direction sector) lent (fun _ after => Moved direction sector lent after)
      (fun _ after => Failed direction (· = sector) lent after) (fun _ _ => False) := by
  obtain ⟨buffer, drive⟩ := lent
  apply Action.Ends.mapError
  cases direction with
  | read =>
    refine .through
      (fun after => { buffer := after.buffer, state := { drive with medium := after.state } }) rfl
      ((drive.medium.read_ends sector buffer).mono ?_ ?_)
    · rintro _ _ ⟨inside, rfl⟩
      exact ⟨inside, rfl, .refl _ drive⟩
    · rintro _ after ⟨same, kept | broken⟩
      · exact .unchanged (Lent.ext kept (congrArg (fun medium => { drive with medium }) same))
      · exact .brokenOff sector rfl rfl (congrArg (fun medium => { drive with medium }) same) broken
  | write =>
    refine .through (fun medium => { buffer, state := { drive with medium } }) rfl
      ((drive.medium.write_ends sector buffer).mono ?_ ?_)
    · rintro _ medium ⟨inside, alike, flat, untouched⟩
      exact ⟨inside, rfl, ⟨medium, drive.transientFailures, rfl⟩, alike, flat, untouched⟩
    · rintro _ _ rfl
      exact .unchanged rfl

/-- A drive that lets a transfer of so many sectors, or blocks, through. -/
structure Admits (drive : Drive) (count : Nat) : Prop where
  settled : drive.transientFailures = 0
  allowed : ∀ most, drive.ceiling = some most → count ≤ most

theorem accept_admits (blocks : Nat) (lent : Lent Drive) :
    Action.Ends (Lent.aside (accept blocks)) lent
      (fun _ after => lent.state.Admits blocks ∧ after = lent)
      (fun _ after => ¬ lent.state.Admits blocks ∧ Refused lent after) (fun _ _ => False) := by
  rw [Lent.aside, Action.ends_onPart]
  unfold Action.Ends accept
  cases pending : lent.state.transientFailures with
  | zero =>
    cases ceiling : lent.state.ceiling with
    | none =>
      simp only [Option.any_none, Bool.false_eq_true, ↓reduceIte]
      exact ⟨⟨pending, fun most same => by rw [ceiling] at same; cases same⟩, trivial⟩
    | some most =>
      by_cases tooLong : most < blocks
      · simp only [Option.any_some, tooLong, decide_true, ↓reduceIte]
        exact ⟨fun admits => Nat.not_le.mpr tooLong (admits.allowed most ceiling), .unchanged rfl⟩
      · simp only [Option.any_some, tooLong, decide_false, Bool.false_eq_true, ↓reduceIte]
        refine ⟨⟨pending, fun other same => ?_⟩, trivial⟩
        cases ceiling.symm.trans same
        exact Nat.not_lt.mp tooLong
  | succ count =>
    refine ⟨fun admits => ?_, .expected count pending rfl⟩
    rw [admits.settled] at pending
    cases pending

theorem accept_ends (blocks : Nat) (lent : Lent Drive) :
    Action.Ends (Lent.aside (accept blocks)) lent (fun _ after => after = lent)
      (fun _ after => Refused lent after) (fun _ _ => False) :=
  (accept_admits blocks lent).mono (fun _ _ done => done.2) (fun _ _ done => done.2)

/-- A transfer that the legacy service would serve, if only the linear number of its address fitted
into 64 bits under the drive's geometry. -/
structure Overruns (drive : Drive) (address : Chs) (count length : Nat) : Prop where
  addressed : drive.kind ≠ .optical
  admits : drive.Admits count
  serves : drive.Serves address count length
  beyond : UInt64.size ≤
    (address.cylinder.toNat * drive.legacy.heads + address.head.toNat) * drive.legacy.sectors +
      address.sector.toNat

theorem Serves.linear? {drive : Drive} {address : Chs} {count length : Nat}
    (serves : drive.Serves address count length) :
    ∃ sector, address.linear? drive.legacy.heads drive.legacy.sectors = some sector ∧
      sector + 1 =
        (address.cylinder.toNat * drive.legacy.heads + address.head.toNat) * drive.legacy.sectors +
          address.sector.toNat := by
  obtain ⟨counted, nonzero, fits, head, -, -⟩ := serves
  have first : 1 ≤ address.sector.toNat :=
    Nat.one_le_iff_ne_zero.mpr fun zero => nonzero (UInt8.toNat_inj.mp zero)
  exact ⟨_, Chs.linear?_eq_some_iff.mpr ⟨⟨head, first, by omega⟩, rfl⟩, by omega⟩

/-- The legacy service moves the sectors that its address names under the drive's own geometry, or
refuses. It faults on a transfer that overruns, and on no other. -/
theorem chsTransfer_decides (direction : Direction) (address : Chs) (count : UInt8)
    (lent : Lent Drive) :
    Action.Ends (chsTransfer direction address count) lent
      (fun _ after => ¬ lent.state.Overruns address count.toNat lent.buffer.length ∧
        ∃ sector,
          address.linear? lent.state.legacy.heads lent.state.legacy.sectors = some sector ∧
            Moved direction sector lent after)
      (fun _ after => ¬ lent.state.Overruns address count.toNat lent.buffer.length ∧
        Failed direction (fun sector =>
          address.linear? lent.state.legacy.heads lent.state.legacy.sectors = some sector)
          lent after)
      (fun reason after => reason = .overflow ∧
        lent.state.Overruns address count.toNat lent.buffer.length ∧ after = lent) := by
  rw [chsTransfer, Action.ends_look_bind]
  by_cases optical : lent.state.kind = .optical
  · simp only [optical, ↓reduceIte]
    exact Action.ends_refuse ⟨fun overruns => overruns.addressed optical, .unchanged rfl⟩
  · simp only [optical, ↓reduceIte]
    refine ((accept_admits count.toNat lent).unfaulted.mono (fun _ _ done => done) ?_).bind ?_
    · rintro _ _ ⟨declined, refused⟩
      exact ⟨fun overruns => declined overruns.admits, .refused refused⟩
    rintro _ lent ⟨admits, rfl⟩
    rw [Action.ends_look_bind]
    split
    · rename_i serves
      obtain ⟨sector, named, place⟩ := serves.linear?
      unfold Chs.linear64
      rw [named]
      dsimp only
      by_cases beyond : UInt64.size ≤ sector + 1
      · rw [if_pos beyond]
        exact ⟨rfl, ⟨optical, admits, serves, place ▸ beyond⟩, rfl⟩
      · rw [if_neg beyond, Action.ends_ok_bind]
        have stays : ¬ lent.state.Overruns address count.toNat lent.buffer.length :=
          fun overruns => beyond (place ▸ overruns.beyond)
        exact ((move_ends direction sector _).unfaulted).mono
          (fun _ _ moved => ⟨stays, sector, rfl, moved⟩)
          (fun _ _ failed => ⟨stays, failed.asked fun _ same => same ▸ rfl⟩)
    · rename_i elsewhere
      exact Action.ends_refuse ⟨fun overruns => elsewhere overruns.serves, .unchanged rfl⟩

/-- Under a geometry that an address has room for, no transfer overruns. -/
theorem Overruns.unaddressable {drive : Drive} {address : Chs} {count length : Nat}
    (overruns : drive.Overruns address count length) :
    ¬ Addressable drive.legacy.heads drive.legacy.sectors := by
  intro shape
  obtain ⟨sector, named, place⟩ := overruns.serves.linear?
  have below := shape.nameable.linear?_lt named
  have beyond := overruns.beyond
  omega

theorem chsTransfer_ends (direction : Direction) (address : Chs) (count : UInt8)
    (lent : Lent Drive) (shape : Addressable lent.state.legacy.heads lent.state.legacy.sectors) :
    Action.Ends (chsTransfer direction address count) lent
      (fun _ after => ∃ sector,
        address.linear? lent.state.legacy.heads lent.state.legacy.sectors = some sector ∧
          Moved direction sector lent after)
      (fun _ after => Failed direction (fun sector =>
        address.linear? lent.state.legacy.heads lent.state.legacy.sectors = some sector) lent after)
      (fun _ _ => False) := by
  have decided := chsTransfer_decides direction address count lent
  exact .intro (fun _ _ run => (decided.of_ok run).2) (fun _ _ run => (decided.of_error run).2)
    (fun _ _ run => (decided.of_fault run).2.1.unaddressable shape)

/-- The extended service moves the sectors of the blocks that its packet names. -/
theorem blockTransfer_ends (direction : Direction) (packet : DiskAddressPacket)
    (lent : Lent Drive) :
    Action.Ends (blockTransfer direction packet) lent
      (fun _ after => Moved direction (packet.block.toNat * lent.state.blockSectors) lent after)
      (fun _ after =>
        Failed direction (· = packet.block.toNat * lent.state.blockSectors) lent after)
      (fun _ _ => False) := by
  rw [blockTransfer, Action.ends_look_bind]
  by_cases absent : !lent.state.extensions || lent.state.brokenExtensions
  · simp only [absent, ↓reduceIte]
    exact Action.ends_refuse (.unchanged rfl)
  · simp only [absent, Bool.false_eq_true, ↓reduceIte]
    refine ((accept_ends packet.blocks.toNat lent).mono (fun _ _ done => done)
      (fun _ _ refused => Failed.refused refused)).bind ?_
    rintro _ _ rfl
    rw [Action.ends_look_bind]
    split
    · exact Action.ends_refuse (.unchanged rfl)
    · split
      · exact Action.ends_refuse (.unchanged rfl)
      · split
        · exact Action.ends_refuse (.unchanged rfl)
        · exact move_ends direction _ _

end Drive

namespace Machine

theorem drive?_attach (machine : Machine) (number other : DriveNumber) (drive : Drive) :
    (machine.attach number drive).drive? other =
      if other = number then some drive else machine.drive? other := by
  rw [drive?, attach, Std.TreeMap.getElem?_insert]
  simp only [Std.LawfulEqCmp.compare_eq_iff_eq, eq_comm (a := number), drive?]

theorem drive?_attach_self {machine : Machine} {number : DriveNumber} {drive : Drive}
    (attached : machine.drive? number = some drive) (other : DriveNumber) :
    (machine.attach number drive).drive? other = machine.drive? other := by
  rw [drive?_attach]
  split
  · rename_i same
    rw [same, attached]
  · rfl

@[simp] theorem drive?_log (machine : Machine) (call : Call) (number : DriveNumber) :
    (machine.log call).drive? number = machine.drive? number := rfl

/-- A machine of which one drive was written, as `Drive.Patched` says, and none other touched. -/
structure Patched (number : DriveNumber) (start : Nat) (bytes : Bytes)
    (before after : Machine) : Prop where
  others : ∀ other, other ≠ number → after.drive? other = before.drive? other
  there : ∀ drive, before.drive? number = some drive →
    ∃ written, after.drive? number = some written ∧ drive.Patched start bytes written
  absent : before.drive? number = none → after.drive? number = none

namespace Patched

variable {number : DriveNumber} {start : Nat}

theorem of_drives {before after : Machine} (number : DriveNumber) (start : Nat)
    (same : ∀ other, after.drive? other = before.drive? other) :
    Patched number start [] before after where
  others other _ := same other
  there drive attached := ⟨drive, by rw [same, attached], .refl start drive⟩
  absent missing := by rw [same, missing]

theorem append {front back : Bytes} {first second third : Machine}
    (former : Patched number start front first second)
    (latter : Patched number (start + front.length) back second third) :
    Patched number start (front ++ back) first third where
  others other apart := (latter.others other apart).trans (former.others other apart)
  there drive attached := by
    obtain ⟨middle, found, patched⟩ := former.there drive attached
    obtain ⟨written, last, again⟩ := latter.there middle found
    exact ⟨written, last, patched.append again⟩
  absent missing := latter.absent (former.absent missing)

theorem anywhere {before after : Machine} (patched : Patched number start [] before after)
    (other : Nat) : Patched number other [] before after where
  others := patched.others
  there drive attached := by
    obtain ⟨written, found, changed⟩ := patched.there drive attached
    exact ⟨written, found, changed.anywhere other⟩
  absent := patched.absent

theorem after_nothing {bytes : Bytes} {first second third : Machine}
    (nothing : Patched number start [] first second)
    (patched : Patched number start bytes second third) : Patched number start bytes first third :=
  nothing.append patched

theorem attach {machine : Machine} {drive written : Drive} {bytes : Bytes} {call : Call}
    (attached : machine.drive? number = some drive) (patched : drive.Patched start bytes written) :
    Patched number start bytes machine ((machine.log call).attach number written) where
  others other apart := by rw [drive?_attach, if_neg apart, drive?_log]
  there held same := by
    cases attached.symm.trans same
    exact ⟨written, by rw [drive?_attach, if_pos rfl], patched⟩
  absent missing := by
    rw [attached] at missing
    cases missing

end Patched

variable {number : DriveNumber}

/-- A machine after services that wrote to no medium. -/
def Idle (number : DriveNumber) (before after : Machine) : Prop :=
  ∀ start, Patched number start [] before after

theorem Idle.refl (number : DriveNumber) (machine : Machine) : Idle number machine machine :=
  fun start => .of_drives number start fun _ => rfl

theorem Idle.trans {first second third : Machine} (front : Idle number first second)
    (back : Idle number second third) : Idle number first third :=
  fun start => (front start).after_nothing (back start)

theorem Idle.media {before after : Machine} (idle : Idle number before after)
    (other : DriveNumber) :
    (after.drive? other).map Drive.medium = (before.drive? other).map Drive.medium := by
  by_cases apart : other = number
  · subst apart
    cases attached : before.drive? other with
    | none => rw [(idle 0).absent attached]
    | some drive =>
      obtain ⟨held, found, patched⟩ := (idle 0).there drive attached
      rw [found, Option.map_some, Option.map_some, patched.untouched rfl]
  · rw [(idle 0).others other apart]

/-- A service that leaves the drive as it is leaves the machine as it is. -/
theorem Idle.attach {machine : Machine} {drive : Drive}
    (attached : machine.drive? number = some drive) :
    Idle number machine (machine.attach number drive) := by
  intro start
  apply Patched.of_drives
  exact drive?_attach_self attached

/-- A transfer between a buffer and the drive under a number. -/
structure Moved (number : DriveNumber) (drive : Drive) (direction : Direction) (sector : Nat)
    (before after : Lent Machine) : Prop where
  attached : before.state.drive? number = some drive
  inside : Inside sector before.buffer.length drive.medium.totalSectors
  buffer : after.buffer = direction.left
    (drive.medium.flat.slice (sector * sectorSize) before.buffer.length) before.buffer
  patched : Patched number (sector * sectorSize) (direction.sent before.buffer) before.state
    after.state

/-- A transfer that came to nothing. A read may have left bytes in the buffer. -/
structure Failed (number : DriveNumber) (direction : Direction) (before after : Lent Machine) :
    Prop where
  length : after.buffer.length = before.buffer.length
  kept : direction = .write → after.buffer = before.buffer
  idle : Idle number before.state after.state

theorem Failed.of_drives {number : DriveNumber} {direction : Direction}
    {before after : Lent Machine} (buffer : after.buffer = before.buffer)
    (same : ∀ other, after.state.drive? other = before.state.drive? other) :
    Failed number direction before after where
  length := by rw [buffer]
  kept _ := buffer
  idle start := .of_drives number start same

theorem Failed.attach {direction : Direction} {Asked : Nat → Prop} {lent : Lent Machine}
    {call : Call} {drive : Drive} {inner : Lent Drive}
    (attached : lent.state.drive? number = some drive)
    (failed : Drive.Failed direction Asked { buffer := lent.buffer, state := drive } inner) :
    Failed number direction lent {
      buffer := inner.buffer
      state := (lent.state.log call).attach number inner.state } where
  length := failed.length_eq
  kept := failed.buffer_of_write
  idle start := .attach attached (failed.patched start)

theorem logged_silent {service : Action (Lent Drive) Status Unit} {call : Call} {lent : Lent Machine}
    (silent : lent.state.answering? number = none) :
    (do logCall call; onDrive number service : Action (Lent Machine) Status Unit) lent =
      (.error .timeout, { lent with state := lent.state.log call }) := by
  have logged : logCall call lent =
      ((.ok (), { lent with state := lent.state.log call }) : Outcome Status Unit × _) := rfl
  have still : (lent.state.log call).answering? number = none := silent
  rw [Action.bind_of_ok logged]
  simp only [onDrive, still]

theorem logged_answered {service : Action (Lent Drive) Status Unit} {call : Call}
    {lent : Lent Machine} {drive : Drive} (answers : lent.state.answering? number = some drive) :
    (do logCall call; onDrive number service : Action (Lent Machine) Status Unit) lent =
      ((service { buffer := lent.buffer, state := drive }).1, {
        buffer := (service { buffer := lent.buffer, state := drive }).2.buffer
        state := (lent.state.log call).attach number
          (service { buffer := lent.buffer, state := drive }).2.state }) := by
  have logged : logCall call lent =
      ((.ok (), { lent with state := lent.state.log call }) : Outcome Status Unit × _) := rfl
  have still : (lent.state.log call).answering? number = some drive := answers
  rw [Action.bind_of_ok logged]
  simp only [onDrive, still]

/-- A service that is logged runs on the drive under its number, if that drive answers. -/
theorem logged_ends {service : Action (Lent Drive) Status Unit} {call : Call}
    {returns : Unit → Lent Machine → Prop} {refuses : Status → Lent Machine → Prop}
    {faults : Fault → Lent Machine → Prop} {lent : Lent Machine}
    (silent : refuses .timeout { lent with state := lent.state.log call })
    (served : ∀ drive, lent.state.drive? number = some drive →
      Action.Ends service { buffer := lent.buffer, state := drive }
        (fun value (after : Lent Drive) => returns value
          { buffer := after.buffer, state := (lent.state.log call).attach number after.state })
        (fun cause (after : Lent Drive) => refuses cause
          { buffer := after.buffer, state := (lent.state.log call).attach number after.state })
        (fun reason (after : Lent Drive) => faults reason
          { buffer := after.buffer, state := (lent.state.log call).attach number after.state })) :
    Action.Ends (do logCall call; onDrive number service) lent returns refuses faults := by
  cases found : lent.state.answering? number with
  | none =>
    unfold Action.Ends
    rw [logged_silent found]
    exact silent
  | some drive =>
    obtain ⟨attached, -⟩ := Option.filter_eq_some_iff.mp found
    exact .through
      (fun (after : Lent Drive) => {
        buffer := after.buffer
        state := (lent.state.log call).attach number after.state })
      (logged_answered found) (served drive attached)

def Shaped (machine : Machine) (number : DriveNumber) : Prop :=
  ∀ drive, machine.drive? number = some drive →
    Addressable drive.legacy.heads drive.legacy.sectors

/-- The legacy service moves sectors of a drive, or refuses, unless the transfer overruns. -/
theorem chsTransfer_decides (direction : Direction) (address : Chs) (count : UInt8)
    (lent : Lent Machine) :
    Action.Ends (Firmware.chsTransfer direction number address count) lent
      (fun _ after => ∃ drive sector,
        address.linear? drive.legacy.heads drive.legacy.sectors = some sector ∧
          Moved number drive direction sector lent after)
      (fun _ after => Failed number direction lent after)
      (fun _ _ => ∃ drive, lent.state.drive? number = some drive ∧
        drive.Overruns address count.toNat lent.buffer.length) := by
  refine logged_ends (.of_drives rfl fun _ => rfl) ?_
  intro drive attached
  have decided := Drive.chsTransfer_decides direction address count
    { buffer := lent.buffer, state := drive }
  apply Action.Ends.intro
  · intro _ after run
    obtain ⟨-, sector, found, moved⟩ := decided.of_ok run
    refine ⟨drive, sector, found, attached, moved.inside, moved.buffer, ?_⟩
    exact .attach attached moved.patched
  · intro _ after run
    exact .attach attached (decided.of_error run).2
  · intro _ _ run
    exact ⟨drive, attached, (decided.of_fault run).2.1⟩

theorem chsTransfer_ends (direction : Direction) (address : Chs) (count : UInt8)
    (lent : Lent Machine) (shape : lent.state.Shaped number) :
    Action.Ends (Firmware.chsTransfer direction number address count) lent
      (fun _ after => ∃ drive sector,
        address.linear? drive.legacy.heads drive.legacy.sectors = some sector ∧
          Moved number drive direction sector lent after)
      (fun _ after => Failed number direction lent after) (fun _ _ => False) := by
  have decided := @chsTransfer_decides number direction address count lent
  refine .intro (fun _ _ run => decided.of_ok run) (fun _ _ run => decided.of_error run) ?_
  intro _ _ run
  obtain ⟨drive, attached, overruns⟩ := decided.of_fault run
  exact overruns.unaddressable (shape drive attached)

theorem blockTransfer_ends (direction : Direction) (packet : DiskAddressPacket)
    (lent : Lent Machine) :
    Action.Ends (Firmware.blockTransfer direction number packet.encode) lent
      (fun _ after => ∃ drive,
        Moved number drive direction (packet.block.toNat * drive.blockSectors) lent after)
      (fun _ after => Failed number direction lent after) (fun _ _ => False) := by
  simp only [Firmware.blockTransfer, DiskAddressPacket.decode?_encode]
  refine logged_ends (.of_drives rfl fun _ => rfl) ?_
  intro drive attached
  refine (Drive.blockTransfer_ends direction packet _).mono ?_ ?_
  · intro _ after moved
    refine ⟨drive, attached, moved.inside, moved.buffer, ?_⟩
    exact .attach attached moved.patched
  · intro _ after failed
    exact .attach attached failed

end Machine

end FirmwareDisk
