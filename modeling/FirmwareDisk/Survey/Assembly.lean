import FirmwareDisk.Machine.Basic
import FirmwareDisk.Survey.Options
import FirmwareDisk.Text.Quoted

set_option autoImplicit false

namespace FirmwareDisk.Survey

/-- Why a survey cannot be made, or found nothing. -/
inductive Problem where
  | noImages
  | tooManyDisks (given count : Nat)
  | tooManyFloppies (given : Nat)
  | unopened (path cause : String)
  | noOptical
  | badBootDrive (name : String) (cause : DiskError)
  | notAttached (name : String)
  | notStarted (cause : DiskError)
  | nothingOpened
deriving DecidableEq, Repr

namespace Problem

def opticalName : String := "cd"

/-- The text of a problem. -/
def message : Problem → String
  | .noImages => "no disk images given"
  | .tooManyDisks given count =>
    s!"{given} hard disk images given but only {count} fixed-disk drive numbers are probed"
  | .tooManyFloppies given => s!"too many floppy images ({given})"
  | .unopened path _ => s!"failed to open {path}"
  | .noOptical => s!"--boot {opticalName} requires --cdrom"
  | .badBootDrive name _ => s!"invalid boot drive {Quoted.quote name}"
  | .notAttached name => s!"boot drive {name} is not attached"
  | .notStarted _ => "failed to initialize BIOS disks"
  | .nothingOpened => "no device could be opened"

/-- The text of what lies behind a problem, if something does. -/
def cause? : Problem → Option String
  | .unopened _ cause => some cause
  | .badBootDrive _ cause => some cause.message
  | .notStarted cause => some cause.message
  | _ => none

/-- The lines in which a problem is told. -/
def lines (problem : Problem) : List String :=
  let told := ("Error: " ++ problem.message).splitOn "\n"
  match problem.cause? with
  | none => told
  | some cause => told ++ ["", "Caused by:"] ++ (cause.splitOn "\n").map ("    " ++ ·)

end Problem

def opticalNumber : DriveNumber := 0xe0

/-- The files that a survey can open. Of any other one, the host tells why it cannot be opened. -/
abbrev Files := String → Except String ImageFile

/-- The image under a path, which has to be there. -/
def imageAt (files : Files) (path : String) : Outcome Problem Medium :=
  match files path with
  | .error cause => .error (.unopened path cause)
  | .ok file => .ok { store := .image file }

/-- Puts an image into a drive under a number, which has to be an 8-bit one. -/
def attachImage (files : Files) (fill : Medium → Drive) (machine : Machine)
    (number : Nat) (path : String) : Outcome Problem Machine := do
  let medium ← imageAt files path
  if UInt8.size ≤ number then .fault .overflow
  else return machine.attach (UInt8.ofNat number) (fill medium)

/-- Puts images into drives under consecutive numbers. -/
def attachImages (files : Files) (fill : Medium → Drive) :
    Machine → Nat → List String → Outcome Problem Machine
  | machine, _, [] => .ok machine
  | machine, number, path :: rest => do
    attachImages files fill (← attachImage files fill machine number path) (number + 1) rest

/-- The drive that the machine starts from: the one that is named, or the first there is. -/
def bootDriveOf (options : Options) (machine : Machine) : Except Problem DriveNumber :=
  match options.boot with
  | none =>
    if !options.images.isEmpty then .ok (UInt8.ofNat DriveNumber.firstFixed)
    else if !options.floppies.isEmpty then .ok 0
    else .ok opticalNumber
  | some name =>
    if name = Problem.opticalName then
      if options.optical.isSome then .ok opticalNumber else .error .noOptical
    else
      match DriveNumber.ofName name with
      | .error cause => .error (.badBootDrive name cause)
      | .ok drive =>
        if (machine.drive? drive).isSome then .ok drive else .error (.notAttached name)

/-- Checks that there is something to look at, and that there are numbers for it. -/
def checkCounts (options : Options) : Except Problem Unit :=
  if options.images.isEmpty && options.floppies.isEmpty && options.optical.isNone then
    .error .noImages
  else if options.diskCount < options.images.length then
    .error (.tooManyDisks options.images.length options.diskCount)
  else if DriveNumber.firstFixed < options.floppies.length then
    .error (.tooManyFloppies options.floppies.length)
  else .ok ()

/-- The drive that an image goes into. Only hard disks can be told to do without the extended
services. -/
def Options.drive (options : Options) (kind : DriveKind) (medium : Medium) : Drive :=
  let drive := { Drive.ofKind kind medium with ceiling := options.maxTransfer }
  match kind with
  | .fixed => { drive with extensions := drive.extensions && !options.noExtensions }
  | .floppy | .optical => drive

/-- The machine with all the images, none of which is started from yet. -/
def attachAll (files : Files) (options : Options) : Outcome Problem Machine := do
  let machine ← attachImages files (options.drive .fixed) {} DriveNumber.firstFixed options.images
  let machine ← attachImages files (options.drive .floppy) machine 0 options.floppies
  attachImages files (options.drive .optical) machine opticalNumber.toNat options.optical.toList

/-- The machine with all the images, and the drive that it starts from. -/
def assemble (files : Files) (options : Options) : Outcome Problem Machine := do
  let machine ← attachAll files options
  let bootDrive ← bootDriveOf options machine
  return { machine with bootDrive }

end FirmwareDisk.Survey
