import FirmwareDisk.Machine.Drive
import Std.Data.TreeMap

set_option autoImplicit false

namespace FirmwareDisk

/-- A call that touched a drive. -/
inductive Call where
  | legacy (direction : Direction) (drive : DriveNumber) (address : Chs) (count : UInt8)
  | extended (direction : Direction) (drive : DriveNumber) (packet : DiskAddressPacket)
  | reset (drive : DriveNumber)
deriving DecidableEq, Repr

/-- A machine. -/
structure Machine where
  drives : Std.TreeMap DriveNumber Drive := {}
  bootDrive : DriveNumber := 0
  /-- The number of floppy drives, where it is not the number of those attached. -/
  floppies : Option UInt8 := none
  calls : List Call := []

namespace Machine

def drive? (machine : Machine) (number : DriveNumber) : Option Drive :=
  machine.drives[number]?

def answering? (machine : Machine) (number : DriveNumber) : Option Drive :=
  (machine.drive? number).filter fun drive => !drive.unreachable

def attach (machine : Machine) (number : DriveNumber) (drive : Drive) : Machine :=
  { machine with drives := machine.drives.insert number drive }

def detach (machine : Machine) (number : DriveNumber) : Machine :=
  { machine with drives := machine.drives.erase number }

/-- Changes the drive under a number, if there is one. -/
def modify (machine : Machine) (number : DriveNumber) (update : Drive → Drive) : Machine :=
  match machine.drive? number with
  | none => machine
  | some drive => machine.attach number (update drive)

def injectFailures (machine : Machine) (number : DriveNumber) (count : Nat) : Machine :=
  machine.modify number fun drive => { drive with transientFailures := count }

def log (machine : Machine) (call : Call) : Machine :=
  { machine with calls := machine.calls ++ [call] }

def forgetCalls (machine : Machine) : Machine :=
  { machine with calls := [] }

def attachedFloppies (machine : Machine) : Nat :=
  machine.drives.values.countP fun drive => drive.kind = .floppy

end Machine

end FirmwareDisk
