import FirmwareDisk.Proofs.Machine.Order

set_option autoImplicit false

namespace FirmwareDisk

namespace Drive

variable {direction : Direction} {before after : Lent Drive}

theorem Admits.accept {drive : Drive} {count : Nat} (admits : drive.Admits count) :
    Drive.accept count drive = (.ok (), drive) := by
  obtain accepted | ⟨status, held, refused⟩ := accept_cases count drive
  · exact accepted
  · have run : Lent.aside (Drive.accept count) { buffer := [], state := drive } =
        (.error status, { buffer := [], state := held }) := by
      rw [Lent.aside, Action.onPart, refused]
    exact (((accept_admits count _).of_error run).1 admits).elim

end Drive

namespace Machine

variable {direction : Direction} {number : DriveNumber}

/-- A machine after a call to one of its drives: whatever became of this drive, the rest is as it
was, and the log has the call. -/
structure Framed (number : DriveNumber) (calls : List Call) (before after : Machine) : Prop where
  calls : after.calls = before.calls ++ calls
  bootDrive : after.bootDrive = before.bootDrive
  floppies : after.floppies = before.floppies
  others : ∀ other, other ≠ number → after.drive? other = before.drive? other

/-- A buffer after a read of the sectors from one on that a call may ask a drive for, which the host of
its medium broke off: the bytes in front of the one that the host cannot read have been given. -/
def BrokenOff (number : DriveNumber) (direction : Direction) (Asked : Drive → Nat → Prop)
    (before after : Lent Machine) : Prop :=
  direction = .read ∧ ∃ drive start, before.state.drive? number = some drive ∧
    Asked drive start ∧
    drive.medium.BrokenOff (start * sectorSize) before.buffer after.buffer

/-- A machine and a buffer after a call that was refused or broken off. Of the drive that was called,
a pending failure may have been used up. -/
structure Spared (number : DriveNumber) (direction : Direction) (Asked : Drive → Nat → Prop)
    (calls : List Call) (before after : Lent Machine) : Prop where
  buffer : after.buffer = before.buffer ∨ BrokenOff number direction Asked before after
  frame : Framed number calls before.state after.state
  drive : after.state.drive? number = before.state.drive? number ∨
    ∃ drive pending, before.state.drive? number = some drive ∧
      drive.transientFailures = pending + 1 ∧
      after.state.drive? number = some { drive with transientFailures := pending }

theorem Spared.media {Asked : Drive → Nat → Prop} {calls : List Call} {before after : Lent Machine}
    (spared : Spared number direction Asked calls before after) (other : DriveNumber) :
    (after.state.drive? other).map Drive.medium = (before.state.drive? other).map Drive.medium := by
  by_cases same : other = number
  · rw [same]
    obtain unchanged | ⟨drive, pending, attached, -, spent⟩ := spared.drive
    · rw [unchanged]
    · rw [attached, spent]
      rfl
  · rw [spared.frame.others other same]

/-- A machine and a buffer after a call that moved the sectors from `start` on, as many as the buffer
has room for. -/
structure Carried (number : DriveNumber) (calls : List Call) (direction : Direction)
    (drive : Drive) (start : Nat) (before after : Lent Machine) : Prop where
  attached : before.state.drive? number = some drive
  inside : Inside start before.buffer.length drive.medium.totalSectors
  buffer : after.buffer = direction.left
    (drive.medium.flat.slice (start * sectorSize) before.buffer.length) before.buffer
  frame : Framed number calls before.state after.state
  drive : ∃ medium : Medium, after.state.drive? number = some { drive with medium } ∧
    medium.Alike drive.medium ∧
    medium.flat = drive.medium.flat.patch (start * sectorSize) (direction.sent before.buffer) ∧
    (direction = .read → medium = drive.medium)

end Machine

end FirmwareDisk
