import FirmwareDisk.Backend.Opened
import FirmwareDisk.Machine.Services
import FirmwareDisk.Raid.Detection
import FirmwareDisk.Session.Disk
import FirmwareDisk.Survey.Assembly
import FirmwareDisk.Survey.Report

set_option autoImplicit false

namespace FirmwareDisk.Survey

variable {σ ε : Type} [Firmware σ]

/-- The names of all disks of a session, in order. -/
def diskNames : Action (Session σ) ε (List String) := fun session =>
  let hook := Hook.collecting fun _ => false
  match NamedDisks.iterate hook (session, []) with
  | (.ok _, (after, names)) => (.ok names.reverse, after)
  | (.error cause, (after, _)) => (.error cause, after)
  | (.fault reason, (after, _)) => (.fault reason, after)

/-- Looks for an array on an opened disk. -/
def detectOn (disk : DiskHandle) :
    Action (Session σ) ε (Except Raid.RaidError Raid.ArrayMember) :=
  Action.caught (Action.onPart (fun backend => ({ backend, disk } : OpenedDisk (Session σ)))
    (fun opened _ => opened.backend) Raid.detect)

/-- What a detection has to say: an array, or an error that is worth telling. -/
def findings : Except Raid.RaidError Raid.ArrayMember → Option Raid.ArrayMember × Option String
  | .ok found => (some found, none)
  | .error .notRaid => (none, none)
  | .error cause => (none, some s!"{Raid.detectorName}: {cause.message}")

/-- Opens a device and looks at it. Its geometry is read off last, so that it shows what was learned
on the way. -/
def examine (name : String) : Action (Session σ) ε DeviceEntry := do
  match ← Action.caught (NamedDisks.openDisk name) with
  | .error cause => return { name, error := some (DiskError.message cause) }
  | .ok disk =>
    let (raid, error) := findings (← detectOn disk)
    Action.change (NamedDisks.close disk)
    let drive := UInt8.ofNat disk.id
    let geometry ← Action.look fun session => session.cache.get? drive
    return {
      name := disk.name
      facts := some { drive, geometry, hasPartitions := disk.hasPartitions, raid }
      error }

/-- Examines some devices in order. -/
def examineAll : List String → Action (Session σ) ε (List DeviceEntry)
  | [] => return []
  | name :: rest => do
    let report ← examine name
    return report :: (← examineAll rest)

def reportOn : Action (Session σ) ε Report := do
  return { devices := ← examineAll (← diskNames) }

/-- A session with the machine that has all the images. -/
def openSession (files : Files) (options : Options) :
    Outcome Problem (Session Machine) := do
  let machine ← assemble files options
  let settings : Settings :=
    { bootDrive := machine.bootDrive, fixedDiskCount := options.diskCount }
  (Session.start settings machine).mapError .notStarted

/-- Surveys the images that the options name. -/
def conduct (files : Files) (options : Options) : Outcome Problem Report := do
  checkCounts options
  let session ← openSession files options
  (reportOn session).1

/-- What a survey leaves: what it prints, and what is wrong in the end. -/
structure Conclusion where
  output : String
  problem : Option Problem

/-- What is wrong with a report: that it has not a single geometry. -/
def Report.problem? (report : Report) : Option Problem :=
  if report.devices.any fun device => device.geometry.isSome then none else some .nothingOpened

/-- Makes a survey. -/
def run (files : Files) (options : Options) : Except Fault Conclusion :=
  match conduct files options with
  | .ok report =>
    .ok { output := report.render options.json, problem := report.problem? }
  | .error problem => .ok { output := "", problem := some problem }
  | .fault reason => .error reason

/-- The status with which a program ends that came to this conclusion. -/
def Conclusion.status (conclusion : Conclusion) : Nat :=
  if conclusion.problem.isSome then 1 else 0

end FirmwareDisk.Survey
