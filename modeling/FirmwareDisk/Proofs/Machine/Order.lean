import FirmwareDisk.Proofs.Machine.Queries

set_option autoImplicit false

namespace FirmwareDisk

namespace Medium

/-- A medium that holds every sector it promises and can be written. -/
structure Intact (medium : Medium) : Prop where
  spotless : medium.badSectors = []
  writable : ∃ disk : MemoryDisk, medium.store = .memory disk ∧ disk.readOnly = false
  size : BlockDevice.totalSectors medium < UInt64.size

variable {medium other : Medium}

theorem Intact.of_alike (intact : medium.Intact) (alike : other.Alike medium) : other.Intact := by
  have total := alike.totalSectors
  obtain ⟨disk, stored, writable⟩ := intact.writable
  obtain ⟨store, badSectors⟩ := other
  obtain ⟨marks, same⟩ := alike
  refine ⟨marks.trans intact.spotless, ?_, total ▸ intact.size⟩
  rw [stored] at same
  cases store with
  | memory held => exact ⟨held, rfl, same.2.trans writable⟩
  | image file => exact same.elim

variable {sector count : Nat}

theorem Intact.read_ends {buffer : Bytes} (intact : medium.Intact)
    (whole : buffer.length = count * sectorSize)
    (fits : sector + count ≤ BlockDevice.totalSectors medium) :
    Action.Ends (BlockDevice.read sector) { buffer, state := medium }
      (fun _ after => after.state = medium) (fun _ _ => False) (fun _ _ => False) := by
  obtain ⟨disk, stored, -⟩ := intact.writable
  have spotless := intact.spotless
  have size := intact.size
  obtain ⟨store, badSectors⟩ := medium
  dsimp only at stored spotless
  subst stored
  subst spotless
  have request := requestedSectors_of_fits whole (Nat.lt_of_le_of_lt fits size) fits
  have asked : requestedSectors sector buffer.length disk.totalSectors = .ok count := request
  unfold Action.Ends
  simp only [BlockDevice.read, touchesBad, List.any_nil, Bool.false_eq_true, ↓reduceIte, readStore,
    asked]

theorem Intact.write_ends {bytes : Bytes} (intact : medium.Intact)
    (whole : bytes.length = count * sectorSize)
    (fits : sector + count ≤ BlockDevice.totalSectors medium) :
    Action.Ends (BlockDevice.write sector bytes) medium
      (fun _ after => after.Alike medium) (fun _ _ => False) (fun _ _ => False) := by
  obtain ⟨disk, stored, writable⟩ := intact.writable
  have spotless := intact.spotless
  have size := intact.size
  have ends := medium.write_ends sector bytes
  obtain ⟨store, badSectors⟩ := medium
  dsimp only at stored spotless
  subst stored
  subst spotless
  have request := requestedSectors_of_fits whole (Nat.lt_of_le_of_lt fits size) fits
  have asked : requestedSectors sector bytes.length disk.totalSectors = .ok count := request
  have granted : (BlockDevice.write sector bytes
      ({ store := .memory disk, badSectors := [] } : Medium)).1 = .ok () := by
    simp only [BlockDevice.write, touchesBad, List.any_nil, Bool.false_eq_true, ↓reduceIte,
      writeStore, writable, asked]
  apply Action.Ends.intro
  · intro _ after run
    exact (ends.of_ok run).2.1
  · intro cause after run
    rw [run] at granted
    cases granted
  · intro reason after run
    rw [run] at granted
    cases granted

end Medium

namespace Drive

/-- A drive that answers, whose extended services work if it has them, and whose medium is intact.
-/
structure InOrder (drive : Drive) : Prop where
  answers : drive.unreachable = false
  working : drive.brokenExtensions = false
  intact : drive.medium.Intact

def addressed (drive : Drive) : Nat :=
  min drive.legacy.cylinders 1024 * drive.legacy.heads * drive.legacy.sectors

variable {drive held : Drive} {direction : Direction} {sector count : Nat} {buffer : Bytes}

/-- A drive that may hold other bytes, and is otherwise as it was. -/
def Rewritten (before after : Drive) : Prop :=
  ∃ medium, after = { before with medium } ∧ medium.Alike before.medium

/-- A drive that let a transfer of so many sectors through. -/
structure Accepted (count : Nat) (before after : Drive) : Prop where
  accepted : accept count before = (.ok (), before)
  rewritten : Rewritten before after

/-- A drive that turned a transfer of so many sectors down. -/
def Declined (count : Nat) (before after : Drive) : Prop :=
  ∃ status, accept count before = (.error status, after)

theorem accept_cases (count : Nat) (drive : Drive) :
    accept count drive = (.ok (), drive) ∨
      ∃ status held, accept count drive = (.error status, held) := by
  unfold accept
  split
  · exact Or.inr ⟨_, _, rfl⟩
  · split
    · exact Or.inr ⟨_, _, rfl⟩
    · exact Or.inl rfl

/-- Turning a transfer down costs a drive one pending failure at most. -/
theorem Declined.rest (declined : Declined count drive held) :
    ∃ pending, held = { drive with transientFailures := pending } := by
  obtain ⟨status, refused⟩ := declined
  unfold accept at refused
  split at refused
  · simp only [Prod.mk.injEq] at refused
    exact ⟨_, refused.2.symm⟩
  · split at refused
    · simp only [Prod.mk.injEq] at refused
      exact ⟨drive.transientFailures, refused.2.symm⟩
    · simp only [Prod.mk.injEq] at refused
      cases refused.1

theorem InOrder.move_ends (order : drive.InOrder) (whole : buffer.length = count * sectorSize)
    (fits : sector + count ≤ BlockDevice.totalSectors drive.medium) :
    Action.Ends (move direction sector) { buffer, state := drive }
      (fun _ after => drive.Rewritten after.state)
      (fun _ _ => False) (fun _ _ => False) := by
  apply Action.Ends.mapError
  cases direction with
  | read =>
    refine .through
      (fun after => { buffer := after.buffer, state := { drive with medium := after.state } }) rfl
      ((order.intact.read_ends whole fits).mono ?_ (fun _ _ never => never))
    intro _ after same
    exact ⟨after.state, rfl, same ▸ .refl drive.medium⟩
  | write =>
    refine .through (fun medium => { buffer, state := { drive with medium } }) rfl
      ((order.intact.write_ends whole fits).mono ?_ (fun _ _ never => never))
    intro _ medium alike
    exact ⟨medium, rfl, alike⟩

section Services

variable {status : Status}

theorem chsTransfer_refused {address : Chs} {count : UInt8} (plain : drive.kind ≠ .optical)
    (refused : accept count.toNat drive = (.error status, held)) :
    chsTransfer direction address count { buffer, state := drive } =
      (.error status, { buffer, state := held }) := by
  have aside : Lent.aside (accept count.toNat) { buffer, state := drive } =
      (.error status, { buffer, state := held }) := by rw [Lent.aside, Action.onPart, refused]
  rw [chsTransfer, Action.look_bind, if_neg plain, Action.bind_of_error aside]

theorem chsTransfer_accepted {address : Chs} {count : UInt8} (plain : drive.kind ≠ .optical)
    (accepted : accept count.toNat drive = (.ok (), drive))
    (shape : Addressable drive.legacy.heads drive.legacy.sectors)
    (serves : drive.Serves address count.toNat buffer.length)
    (named : address.linear? drive.legacy.heads drive.legacy.sectors = some sector) :
    chsTransfer direction address count { buffer, state := drive } =
      move direction sector { buffer, state := drive } := by
  have aside : Lent.aside (accept count.toNat) { buffer, state := drive } =
      (.ok (), { buffer, state := drive }) := by rw [Lent.aside, Action.onPart, accepted]
  rw [chsTransfer, Action.look_bind, if_neg plain, Action.bind_of_ok aside, Action.look_bind,
    if_pos serves, address.linear64_eq shape, named]
  rfl

theorem blockTransfer_refused {packet : DiskAddressPacket} (extended : drive.extensions = true)
    (working : drive.brokenExtensions = false)
    (refused : accept packet.blocks.toNat drive = (.error status, held)) :
    blockTransfer direction packet { buffer, state := drive } =
      (.error status, { buffer, state := held }) := by
  have present : ¬ (!drive.extensions || drive.brokenExtensions) = true := by
    simp only [extended, working, Bool.not_true, Bool.or_self, Bool.false_eq_true,
      not_false_eq_true]
  have aside : Lent.aside (accept packet.blocks.toNat) { buffer, state := drive } =
      (.error status, { buffer, state := held }) := by rw [Lent.aside, Action.onPart, refused]
  rw [blockTransfer, Action.look_bind, if_neg present, Action.bind_of_error aside]

theorem blockTransfer_accepted {packet : DiskAddressPacket} (plain : drive.kind ≠ .optical)
    (extended : drive.extensions = true) (working : drive.brokenExtensions = false)
    (accepted : accept packet.blocks.toNat drive = (.ok (), drive))
    (positive : 0 < packet.blocks.toNat)
    (whole : buffer.length = packet.blocks.toNat * sectorSize) :
    blockTransfer direction packet { buffer, state := drive } =
      move direction packet.block.toNat { buffer, state := drive } := by
  have present : ¬ (!drive.extensions || drive.brokenExtensions) = true := by
    simp only [extended, working, Bool.not_true, Bool.or_self, Bool.false_eq_true,
      not_false_eq_true]
  have aside : Lent.aside (accept packet.blocks.toNat) { buffer, state := drive } =
      (.ok (), { buffer, state := drive }) := by rw [Lent.aside, Action.onPart, accepted]
  have single : drive.blockSectors = 1 := if_neg plain
  have writable : ¬ (drive.kind = .optical ∧ direction = .write) := fun both => plain both.1
  have fitting : ¬ (packet.blocks.toNat = 0 ∨
      buffer.length ≠ packet.blocks.toNat * drive.blockSectors * sectorSize) := by
    rw [single, Nat.mul_one, whole]
    omega
  have near : ¬ UInt64.size ≤ packet.block.toNat * drive.blockSectors := by
    rw [single, Nat.mul_one]
    exact Nat.not_le.mpr packet.block.toNat_lt
  rw [blockTransfer, Action.look_bind, if_neg present, Action.bind_of_ok aside, Action.look_bind,
    if_neg writable, if_neg fitting, if_neg near, single, Nat.mul_one]

/-- The legacy service of a drive in order, asked for sectors that the drive has. -/
theorem InOrder.chsTransfer_ends {address : Chs} {count : UInt8} (order : drive.InOrder)
    (plain : drive.kind ≠ .optical) (shape : Addressable drive.legacy.heads drive.legacy.sectors)
    (serves : drive.Serves address count.toNat buffer.length)
    (named : address.linear? drive.legacy.heads drive.legacy.sectors = some sector)
    (fits : sector + count.toNat ≤ BlockDevice.totalSectors drive.medium) :
    Action.Ends (chsTransfer direction address count) { buffer, state := drive }
      (fun _ after => drive.Accepted count.toNat after.state)
      (fun _ after => drive.Declined count.toNat after.state) (fun _ _ => False) := by
  obtain accepted | ⟨status, held, refused⟩ := accept_cases count.toNat drive
  · have whole : buffer.length = count.toNat * sectorSize := serves.2.2.2.2.2
    apply Action.Ends.of_run (chsTransfer_accepted plain accepted shape serves named)
    exact (order.move_ends whole fits).mono (fun _ _ same => ⟨accepted, same⟩)
      (fun _ _ never => never.elim)
  · rw [Action.Ends, chsTransfer_refused plain refused]
    exact ⟨status, refused⟩

/-- The extended service of a drive in order, asked for sectors that the drive has. -/
theorem InOrder.blockTransfer_ends {packet : DiskAddressPacket} (order : drive.InOrder)
    (plain : drive.kind ≠ .optical) (extended : drive.extensions = true)
    (positive : 0 < packet.blocks.toNat)
    (whole : buffer.length = packet.blocks.toNat * sectorSize)
    (fits : packet.block.toNat + packet.blocks.toNat ≤ BlockDevice.totalSectors drive.medium) :
    Action.Ends (blockTransfer direction packet) { buffer, state := drive }
      (fun _ after => drive.Accepted packet.blocks.toNat after.state)
      (fun _ after => drive.Declined packet.blocks.toNat after.state) (fun _ _ => False) := by
  obtain accepted | ⟨status, held, refused⟩ := accept_cases packet.blocks.toNat drive
  · apply Action.Ends.of_run
      (blockTransfer_accepted plain extended order.working accepted positive whole)
    exact (order.move_ends whole fits).mono (fun _ _ same => ⟨accepted, same⟩)
      (fun _ _ never => never.elim)
  · rw [Action.Ends, blockTransfer_refused extended order.working refused]
    exact ⟨status, refused⟩

end Services

theorem accept_through (blocks : Nat) (lent : Lent Drive) :
    Action.Ends (Lent.aside (accept blocks)) lent (fun _ after => after = lent)
      (fun _ _ => True) (fun _ _ => True) :=
  ((accept_ends blocks lent).mono (fun _ _ same => same) (fun _ _ _ => trivial)).unfaulted

/-- The legacy service moves nothing but sectors of a track of the drive. -/
theorem chsTransfer_serves (direction : Direction) (address : Chs) (count : UInt8)
    (lent : Lent Drive) :
    Action.Ends (chsTransfer direction address count) lent
      (fun _ _ => lent.state.Serves address count.toNat lent.buffer.length)
      (fun _ _ => True) (fun _ _ => True) := by
  rw [chsTransfer, Action.ends_look_bind]
  split
  · exact Action.ends_refuse trivial
  · refine (accept_through count.toNat lent).bind ?_
    rintro _ _ rfl
    rw [Action.ends_look_bind]
    split
    · rename_i serves
      exact .intro (fun _ _ _ => serves) (fun _ _ _ => trivial) (fun _ _ _ => trivial)
    · exact Action.ends_refuse trivial

/-- The extended service moves nothing but a buffer of whole blocks. -/
theorem blockTransfer_whole (direction : Direction) (packet : DiskAddressPacket)
    (lent : Lent Drive) :
    Action.Ends (blockTransfer direction packet) lent
      (fun _ _ => packet.blocks.toNat ≠ 0 ∧
        lent.buffer.length = packet.blocks.toNat * lent.state.blockSectors * sectorSize)
      (fun _ _ => True) (fun _ _ => True) := by
  rw [blockTransfer, Action.ends_look_bind]
  split
  · exact Action.ends_refuse trivial
  · refine (accept_through packet.blocks.toNat lent).bind ?_
    rintro _ _ rfl
    rw [Action.ends_look_bind]
    split
    · exact Action.ends_refuse trivial
    · split
      · exact Action.ends_refuse trivial
      · rename_i fitting
        have whole := not_or.mp fitting
        exact .intro (fun _ _ _ => ⟨whole.1, Decidable.not_not.mp whole.2⟩) (fun _ _ _ => trivial)
          (fun _ _ _ => trivial)

theorem move_read_ends (sector : Nat) (lent : Lent Drive) :
    Action.Ends (move .read sector) lent (fun _ after => after.state = lent.state)
      (fun _ after => after.state = lent.state) (fun _ _ => False) := by
  obtain ⟨buffer, drive⟩ := lent
  apply Action.Ends.mapError
  refine .through
    (fun after => { buffer := after.buffer, state := { drive with medium := after.state } }) rfl
    ((drive.medium.read_ends sector buffer).mono ?_ ?_)
  · rintro _ _ ⟨-, rfl⟩
    rfl
  · rintro _ _ ⟨same, -⟩
    exact congrArg (fun medium => { drive with medium }) same

section Calm

variable (calm : drive.transientFailures = 0)
include calm

/-- Without pending failures, a drive is the same whether it lets a transfer through or not. -/
theorem accept_calm (blocks : Nat) :
    Action.Ends (Lent.aside (accept blocks)) { buffer, state := drive }
      (fun _ after => after = { buffer, state := drive }) (fun _ after => after.state = drive)
      (fun _ _ => False) := by
  refine (accept_ends blocks _).mono (fun _ _ same => same) ?_
  intro _ after refused
  cases refused with
  | unchanged same => rw [same]
  | expected pending counted rest =>
    rw [calm] at counted
    cases counted

/-- Without pending failures, a drive is the same after it was read, however that ended. -/
theorem chsTransfer_read_calm (address : Chs) (count : UInt8)
    (shape : Addressable drive.legacy.heads drive.legacy.sectors) :
    Action.Ends (chsTransfer .read address count) { buffer, state := drive }
      (fun _ after => after.state = drive) (fun _ after => after.state = drive)
      (fun _ _ => False) := by
  rw [chsTransfer, Action.ends_look_bind]
  dsimp only
  split
  · exact Action.ends_refuse rfl
  · refine (accept_calm calm count.toNat).bind ?_
    rintro _ _ rfl
    rw [Action.ends_look_bind]
    split
    · rw [address.linear64_eq shape, Action.ends_ok_bind]
      split
      · exact move_read_ends _ _
      · exact Action.ends_refuse rfl
    · exact Action.ends_refuse rfl

theorem blockTransfer_read_calm (packet : DiskAddressPacket) :
    Action.Ends (blockTransfer .read packet) { buffer, state := drive }
      (fun _ after => after.state = drive) (fun _ after => after.state = drive)
      (fun _ _ => False) := by
  rw [blockTransfer, Action.ends_look_bind]
  dsimp only
  split
  · exact Action.ends_refuse rfl
  · refine (accept_calm calm packet.blocks.toNat).bind ?_
    rintro _ _ rfl
    rw [Action.ends_look_bind]
    split
    · exact Action.ends_refuse rfl
    · split
      · exact Action.ends_refuse rfl
      · split
        · exact Action.ends_refuse rfl
        · exact move_read_ends _ _

end Calm

end Drive

namespace Machine

variable {number : DriveNumber} {drive : Drive}

theorem drive?_injectFailures {machine : Machine} (attached : machine.drive? number = some drive)
    (count : Nat) :
    (machine.injectFailures number count).drive? number =
      some { drive with transientFailures := count } := by
  rw [injectFailures, modify, attached]
  dsimp only
  rw [drive?_attach, if_pos rfl]

/-- If a drive answers, its service decides what becomes of it. -/
theorem answered_ends {service : Action (Lent Drive) Status Unit} {call : Call}
    {returns : Drive → Prop} {refuses : Drive → Prop} {lent : Lent Machine}
    (attached : lent.state.drive? number = some drive) (answers : drive.unreachable = false)
    (served : Action.Ends service { buffer := lent.buffer, state := drive }
      (fun _ after => returns after.state) (fun _ after => refuses after.state)
      (fun _ _ => False)) :
    Action.Ends (do logCall call; onDrive number service) lent
      (fun _ after => ∃ held, after.state.drive? number = some held ∧ returns held)
      (fun _ after => ∃ held, after.state.drive? number = some held ∧ refuses held)
      (fun _ _ => False) := by
  have answering : lent.state.answering? number = some drive := by
    rw [answering?, attached]
    simp only [Option.filter_some, answers, Bool.not_false, ↓reduceIte]
  have kept (held : Drive) :
      ((lent.state.log call).attach number held).drive? number = some held := by
    rw [drive?_attach, if_pos rfl]
  exact .through
    (fun (after : Lent Drive) => {
      buffer := after.buffer
      state := (lent.state.log call).attach number after.state })
    (logged_answered answering)
    (served.mono (fun _ after done => ⟨after.state, kept after.state, done⟩)
      (fun _ after refused => ⟨after.state, kept after.state, refused⟩))

theorem chsTransfer_answered (direction : Direction) {address : Chs} {sector : Nat}
    (count : UInt8) (lent : Lent Machine) (attached : lent.state.drive? number = some drive)
    (order : drive.InOrder) (plain : drive.kind ≠ .optical)
    (shape : Addressable drive.legacy.heads drive.legacy.sectors)
    (serves : drive.Serves address count.toNat lent.buffer.length)
    (named : address.linear? drive.legacy.heads drive.legacy.sectors = some sector)
    (fits : sector + count.toNat ≤ BlockDevice.totalSectors drive.medium) :
    Action.Ends (Firmware.chsTransfer direction number address count) lent
      (fun _ after => ∃ held, after.state.drive? number = some held ∧
        drive.Accepted count.toNat held)
      (fun _ after => ∃ held, after.state.drive? number = some held ∧
        drive.Declined count.toNat held)
      (fun _ _ => False) :=
  answered_ends attached order.answers (order.chsTransfer_ends plain shape serves named fits)

theorem blockTransfer_answered (direction : Direction) (packet : DiskAddressPacket)
    (lent : Lent Machine) (attached : lent.state.drive? number = some drive)
    (order : drive.InOrder) (plain : drive.kind ≠ .optical) (extended : drive.extensions = true)
    (positive : 0 < packet.blocks.toNat)
    (whole : lent.buffer.length = packet.blocks.toNat * sectorSize)
    (fits : packet.block.toNat + packet.blocks.toNat ≤ BlockDevice.totalSectors drive.medium) :
    Action.Ends (Firmware.blockTransfer direction number packet.encode) lent
      (fun _ after => ∃ held, after.state.drive? number = some held ∧
        drive.Accepted packet.blocks.toNat held)
      (fun _ after => ∃ held, after.state.drive? number = some held ∧
        drive.Declined packet.blocks.toNat held)
      (fun _ _ => False) := by
  simp only [Firmware.blockTransfer, DiskAddressPacket.decode?_encode]
  exact answered_ends attached order.answers
    (order.blockTransfer_ends plain extended positive whole fits)

theorem chsTransfer_serves (direction : Direction) (address : Chs) (count : UInt8)
    (lent : Lent Machine) (attached : lent.state.drive? number = some drive) :
    Action.Ends (Firmware.chsTransfer direction number address count) lent
      (fun _ _ => drive.Serves address count.toNat lent.buffer.length)
      (fun _ _ => True) (fun _ _ => True) := by
  refine logged_ends trivial ?_
  intro found same
  cases attached.symm.trans same
  exact Drive.chsTransfer_serves direction address count _

theorem blockTransfer_blocks (direction : Direction) (packet : DiskAddressPacket)
    (lent : Lent Machine) :
    Action.Ends (Firmware.blockTransfer direction number packet.encode) lent
      (fun _ _ => ∃ drive, lent.state.drive? number = some drive ∧ packet.blocks.toNat ≠ 0 ∧
        lent.buffer.length = packet.blocks.toNat * drive.blockSectors * sectorSize)
      (fun _ _ => True) (fun _ _ => True) := by
  simp only [Firmware.blockTransfer, DiskAddressPacket.decode?_encode]
  refine logged_ends trivial ?_
  intro drive attached
  refine (Drive.blockTransfer_whole direction packet _).mono ?_ (fun _ _ _ => trivial)
  intro _ _ whole
  exact ⟨drive, attached, whole⟩

/-- A service that leaves its drive as it was leaves it under its number. -/
theorem logged_same {service : Action (Lent Drive) Status Unit} {call : Call} {lent : Lent Machine}
    (attached : lent.state.drive? number = some drive)
    (served : Action.Ends service { buffer := lent.buffer, state := drive }
      (fun _ after => after.state = drive) (fun _ after => after.state = drive)
      (fun _ _ => False)) :
    Action.Ends (do logCall call; onDrive number service) lent
      (fun _ after => after.state.drive? number = some drive)
      (fun _ after => after.state.drive? number = some drive) (fun _ _ => False) := by
  have kept (machine : Machine) : (machine.attach number drive).drive? number = some drive := by
    rw [drive?_attach, if_pos rfl]
  refine logged_ends attached ?_
  intro found same
  cases attached.symm.trans same
  refine served.mono ?_ ?_
  · intro _ after unchanged
    rw [unchanged]
    exact kept _
  · intro _ after unchanged
    rw [unchanged]
    exact kept _

theorem chsTransfer_calm (address : Chs) (count : UInt8) {lent : Lent Machine}
    (attached : lent.state.drive? number = some drive)
    (shape : Addressable drive.legacy.heads drive.legacy.sectors)
    (calm : drive.transientFailures = 0) :
    Action.Ends (Firmware.chsTransfer .read number address count) lent
      (fun _ after => after.state.drive? number = some drive)
      (fun _ after => after.state.drive? number = some drive) (fun _ _ => False) :=
  logged_same attached (Drive.chsTransfer_read_calm calm address count shape)

theorem blockTransfer_calm (packet : DiskAddressPacket) {lent : Lent Machine}
    (attached : lent.state.drive? number = some drive) (calm : drive.transientFailures = 0) :
    Action.Ends (Firmware.blockTransfer .read number packet.encode) lent
      (fun _ after => after.state.drive? number = some drive)
      (fun _ after => after.state.drive? number = some drive) (fun _ _ => False) := by
  simp only [Firmware.blockTransfer, DiskAddressPacket.decode?_encode]
  exact logged_same attached (Drive.blockTransfer_read_calm calm packet)

/-- Probing a drive without pending failures changes nothing about it. -/
theorem keeps_calm (shape : Addressable drive.legacy.heads drive.legacy.sectors)
    (calm : drive.transientFailures = 0) :
    Firmware.Keeps number (fun machine : Machine => machine.drive? number = some drive)
      (fun _ => False) where
  read address lent _ attached := chsTransfer_calm address 1 attached shape calm
  version _ attached := attached
  extended lent attached := by
    cases found : lent.state.answering? number with
    | none =>
      unfold Action.Ends
      simp only [Firmware.extendedParameters, onDrive, found]
      exact attached
    | some other =>
      obtain ⟨same, -⟩ := Option.filter_eq_some_iff.mp found
      cases attached.symm.trans same
      -- Putting the drive back where it stood changes nothing.
      have kept : (lent.state.attach number drive).drive? number = some drive := by
        rw [drive?_attach, if_pos rfl]
      unfold Action.Ends
      simp only [Firmware.extendedParameters, onDrive, found]
      cases drive.extensions <;> exact kept
  legacy machine attached := by
    unfold Action.Ends
    simp only [Firmware.legacyParameters]
    cases machine.answering? number with
    | none => exact attached
    | some other =>
      by_cases optical : other.kind = .optical
      · simp only [optical, ↓reduceIte]
        exact attached
      · simp only [optical, ↓reduceIte]
        exact attached

end Machine

end FirmwareDisk
