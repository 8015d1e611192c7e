import FirmwareDisk.Proofs.Machine.Transfers
import FirmwareDisk.Proofs.Transfer.Agreement

set_option autoImplicit false

namespace FirmwareDisk

theorem Direction.moves_write {σ : Type} (service : Action (Lent σ) Status Unit) :
    Direction.write.Moves (· = ·) service := by
  rintro ⟨buffer, state⟩ ⟨other, _⟩ rfl _ same
  obtain rfl : buffer = other := same rfl
  refine (Action.agrees_self service { buffer, state }).mono ?_ ?_
  · rintro _ one two ⟨_, rfl⟩
    exact ⟨rfl, rfl, nofun⟩
  · rintro one two rfl
    exact ⟨rfl, fun _ => rfl⟩

/-- How the read of a medium ends does not depend on what the buffer held. -/
theorem Medium.read_outcome (medium : Medium) (sector : Nat) {buffer other : Bytes}
    (same : buffer.length = other.length) :
    (BlockDevice.read sector { buffer, state := medium }).1 =
      (BlockDevice.read sector { buffer := other, state := medium }).1 := by
  obtain ⟨store, badSectors⟩ := medium
  simp only [BlockDevice.read, same]
  split
  · rfl
  · cases store with
    | memory disk =>
      simp only [readStore, BlockDevice.read, same]
      cases requestedSectors sector other.length disk.totalSectors <;> rfl
    | image file =>
      simp only [readStore, ImageFile.read_eq, same]
      cases requestedSectors sector other.length file.totalSectors with
      | error cause => rfl
      | ok count =>
        dsimp only
        split
        · rfl
        · cases file.faults.seek (sector * sectorSize) with
          | some cause => rfl
          | none => cases file.failure? (sector * sectorSize) other.length <;> rfl

namespace Drive

theorem move_moves (sector : Nat) : Direction.read.Moves (· = ·) (move .read sector) := by
  rintro ⟨buffer, drive⟩ ⟨other, _⟩ rfl same _
  have read := Action.Agrees.of_ends (drive.medium.read_outcome sector same)
    (drive.medium.read_ends sector buffer) (drive.medium.read_ends sector other)
  let rebuilt (after : Lent Medium) : Lent Drive :=
    { buffer := after.buffer, state := { drive with medium := after.state } }
  refine .mapError ((read.mono ?_ ?_).through rebuilt rebuilt rfl rfl)
  · rintro _ _ _ ⟨⟨_, rfl⟩, _, rfl⟩
    exact ⟨rfl, by simp only [rebuilt]; rw [same], fun _ => Flat.length_slice _ _ _⟩
  · rintro _ _ ⟨_, ⟨left, -⟩, right, -⟩
    exact ⟨congrArg (fun medium => { drive with medium }) (left.trans right.symm), nofun⟩

/-- A drive lets a transfer through or turns it down whatever the buffer holds. -/
theorem accept_agrees (blocks : Nat) (drive : Drive) (buffer other : Bytes) :
    Action.Agrees (Lent.aside (accept blocks)) { buffer, state := drive }
      { buffer := other, state := drive }
      (fun _ one two =>
        one = { buffer, state := drive } ∧ two = { buffer := other, state := drive })
      (fun one two =>
        one.state = two.state ∧ (Direction.read = .write → one.buffer = two.buffer)) := by
  refine .onPart ((Action.agrees_self (accept blocks) drive).mono ?_
    (fun _ _ same => ⟨same, nofun⟩))
  rintro _ after _ ⟨run, rfl⟩
  have aside : Lent.aside (accept blocks) { buffer, state := drive } =
      (.ok (), { buffer, state := after }) := by rw [Lent.aside, Action.onPart, run]
  have unchanged := (accept_ends blocks { buffer, state := drive }).of_ok aside
  cases unchanged
  exact ⟨rfl, rfl⟩

theorem chsTransfer_moves (direction : Direction) (address : Chs) (count : UInt8) :
    direction.Moves (· = ·) (chsTransfer direction address count) := by
  cases direction with
  | write => exact Direction.moves_write _
  | read =>
    rintro ⟨buffer, drive⟩ ⟨other, _⟩ rfl same _
    refine Action.agrees_look_bind (by rfl) ?_
    dsimp only
    split
    · exact Action.agrees_refuse ⟨rfl, nofun⟩
    · refine (accept_agrees count.toNat drive buffer other).bind ?_
      rintro _ _ _ ⟨rfl, rfl⟩
      refine Action.agrees_look_bind same ?_
      dsimp only
      split
      · cases (address.linear64 drive.legacy.heads drive.legacy.sectors :
          Outcome Status (Option Nat)) with
        | ok found =>
          cases found with
          | none => exact .error rfl rfl ⟨rfl, nofun⟩
          | some sector =>
            have moved := move_moves sector { buffer, state := drive }
              { buffer := other, state := drive } rfl same nofun
            exact moved.of_run rfl rfl
        | error cause => exact .error rfl rfl ⟨rfl, nofun⟩
        | fault reason => exact .fault rfl rfl ⟨rfl, nofun⟩
      · exact Action.agrees_refuse ⟨rfl, nofun⟩

theorem blockTransfer_moves (direction : Direction) (packet : DiskAddressPacket) :
    direction.Moves (· = ·) (blockTransfer direction packet) := by
  cases direction with
  | write => exact Direction.moves_write _
  | read =>
    rintro ⟨buffer, drive⟩ ⟨other, _⟩ rfl same _
    refine Action.agrees_look_bind (by rfl) ?_
    dsimp only
    split
    · exact Action.agrees_refuse ⟨rfl, nofun⟩
    · refine (accept_agrees packet.blocks.toNat drive buffer other).bind ?_
      rintro _ _ _ ⟨rfl, rfl⟩
      refine Action.agrees_look_bind same ?_
      split
      · exact Action.agrees_refuse ⟨rfl, nofun⟩
      · split
        · exact Action.agrees_refuse ⟨rfl, nofun⟩
        · split
          · exact Action.agrees_refuse ⟨rfl, nofun⟩
          · exact move_moves _ _ _ rfl same nofun

end Drive

namespace Machine

/-- A machine that went on from another one with some calls, all of which were of one drive. -/
structure Beside (number : DriveNumber) (made : List Call) (base machine : Machine) : Prop where
  others : ∀ other, other ≠ number → machine.drive? other = base.drive? other
  bootDrive : machine.bootDrive = base.bootDrive
  floppies : machine.floppies = base.floppies
  calls : machine.calls = base.calls ++ made

/-- Two machines that have gone on from others with the same calls, and have the same drive under a
number. -/
structure Alike (number : DriveNumber) (left right first second : Machine) : Prop where
  drive : first.drive? number = second.drive? number
  made : ∃ made, Beside number made left first ∧ Beside number made right second

variable {number : DriveNumber} {left right first second : Machine}

theorem Beside.refl (number : DriveNumber) (machine : Machine) : Beside number [] machine machine :=
  ⟨fun _ _ => rfl, rfl, rfl, (List.append_nil _).symm⟩

theorem Beside.log {made : List Call} {base machine : Machine}
    (beside : Beside number made base machine) (call : Call) :
    Beside number (made ++ [call]) base (machine.log call) where
  others := beside.others
  bootDrive := beside.bootDrive
  floppies := beside.floppies
  calls := by rw [Machine.log, beside.calls, List.append_assoc]

theorem Beside.attach {made : List Call} {base machine : Machine}
    (beside : Beside number made base machine) (drive : Drive) :
    Beside number made base (machine.attach number drive) where
  others other apart := by
    rw [drive?_attach, if_neg apart]
    exact beside.others other apart
  bootDrive := beside.bootDrive
  floppies := beside.floppies
  calls := beside.calls

theorem Alike.log (alike : Alike number left right first second) (call : Call) :
    Alike number left right (first.log call) (second.log call) where
  drive := alike.drive
  made := by
    obtain ⟨made, here, there⟩ := alike.made
    exact ⟨_, here.log call, there.log call⟩

theorem Alike.attach (alike : Alike number left right first second) {drive other : Drive}
    (same : drive = other) :
    Alike number left right (first.attach number drive) (second.attach number other) where
  drive := by rw [drive?_attach, drive?_attach, if_pos rfl, if_pos rfl, same]
  made := by
    obtain ⟨made, here, there⟩ := alike.made
    exact ⟨made, here.attach drive, there.attach other⟩

theorem Alike.answering (alike : Alike number left right first second) :
    first.answering? number = second.answering? number := by
  rw [answering?, answering?, alike.drive]

/-- What a drive does on alike machines is what it does. -/
theorem onDrive_moves {direction : Direction} {service : Action (Lent Drive) Status Unit}
    (moves : direction.Moves (· = ·) service) :
    direction.Moves (Alike number left right) (onDrive number service) := by
  have silent {lent : Lent Machine} (absent : lent.state.answering? number = none) :
      onDrive number service lent = (.error .timeout, lent) := by
    simp only [onDrive, absent]
  have served {lent : Lent Machine} {drive : Drive}
      (answers : lent.state.answering? number = some drive) :
      onDrive number service lent =
        ((service { buffer := lent.buffer, state := drive }).1, {
          buffer := (service { buffer := lent.buffer, state := drive }).2.buffer
          state := lent.state.attach number
            (service { buffer := lent.buffer, state := drive }).2.state }) := by
    simp only [onDrive, answers]
  let rebuilt (lent : Lent Machine) (after : Lent Drive) : Lent Machine :=
    { buffer := after.buffer, state := lent.state.attach number after.state }
  intro first second alike same held
  have answering := alike.answering
  cases answers : first.state.answering? number with
  | none => exact .error (silent answers) (silent (answering.symm.trans answers)) ⟨alike, held⟩
  | some drive =>
    refine ((moves { buffer := first.buffer, state := drive }
      { buffer := second.buffer, state := drive } rfl same held).mono ?_ ?_).through
      (rebuilt first) (rebuilt second) (served answers) (served (answering.symm.trans answers))
    · rintro _ one two ⟨state, bytes⟩
      exact ⟨alike.attach state, bytes⟩
    · rintro one two ⟨state, bytes⟩
      exact ⟨alike.attach state, bytes⟩

theorem logged_moves {direction : Direction} {service : Action (Lent Drive) Status Unit}
    (moves : direction.Moves (· = ·) service) (call : Call) :
    direction.Moves (Alike number left right) (do logCall call; onDrive number service) := by
  have logged (lent : Lent Machine) :
      (do logCall call; onDrive number service) lent =
        onDrive number service { lent with state := lent.state.log call } := rfl
  intro first second alike same held
  exact (onDrive_moves moves { first with state := first.state.log call }
    { second with state := second.state.log call } (alike.log call) same held).of_run
    (logged first) (logged second)

/-- The services of one drive are the same on machines that are alike to it. -/
theorem alike_services (number : DriveNumber) (left right : Machine) :
    Firmware.Alike number (Alike number left right) where
  chs direction address count :=
    logged_moves (Drive.chsTransfer_moves direction address count) _
  block direction raw := by
    simp only [Firmware.blockTransfer]
    cases DiskAddressPacket.decode? raw with
    | none => exact fun _ _ alike _ held => Action.agrees_refuse ⟨alike, held⟩
    | some packet => exact logged_moves (Drive.blockTransfer_moves direction packet) _
  version first second alike := by
    simp only [Firmware.extensionsVersion, alike.answering]
    exact ⟨trivial, alike⟩
  extended buffer first second alike :=
    (onDrive_moves (Direction.moves_write _) { buffer, state := first }
      { buffer, state := second } alike rfl fun _ => rfl).mono
        (fun _ _ _ done => ⟨done.1, done.2.1⟩) (fun _ _ failed => failed.1)
  legacy first second alike := by
    have answering := alike.answering
    cases answers : first.answering? number with
    | none =>
      have silent {machine : Machine} (absent : machine.answering? number = none) :
          Firmware.legacyParameters number machine = (.error .timeout, machine) := by
        simp only [Firmware.legacyParameters, absent]
      exact .error (silent answers) (silent (answering.symm.trans answers)) alike
    | some drive =>
      by_cases optical : drive.kind = .optical
      · have refused {machine : Machine} (present : machine.answering? number = some drive) :
            Firmware.legacyParameters number machine = (.error .invalidCommand, machine) := by
          simp only [Firmware.legacyParameters, present, optical, ↓reduceIte]
        exact .error (refused answers) (refused (answering.symm.trans answers)) alike
      · have told {machine : Machine} (present : machine.answering? number = some drive) :
            Firmware.legacyParameters number machine = (.ok drive.legacy, machine) := by
          simp only [Firmware.legacyParameters, present, optical, ↓reduceIte]
        exact .ok (told answers) (told (answering.symm.trans answers)) alike
  reset first second alike := alike.log (.reset number)

end Machine

end FirmwareDisk
