import FirmwareDisk.Backend.Basic
import FirmwareDisk.Session.Basic

set_option autoImplicit false

namespace FirmwareDisk.Session

def bootName : String := "boot"

/-- The floppy drives, of which there is at least one if the machine started from the first. -/
def floppyDrives (bootDrive : DriveNumber) (count : UInt8) : List DriveNumber :=
  let count := if bootDrive = 0 ∧ count = 0 then 1 else count.toNat
  (List.range (min count DriveNumber.firstFixed)).map UInt8.ofNat

variable {σ ε τ : Type} [Firmware σ]

def beside {ε α : Type} (action : Action (Session σ) ε α) : Action (Session σ × τ) ε α :=
  Action.onPart Prod.fst (fun session pair => (session, pair.2)) action

/-- Offers the names of a drive, if it can be reached. -/
def offerDrive (hook : Hook τ) (drive : DriveNumber) : Action (Session σ × τ) ε Bool := do
  match ← beside (Action.caught (recordOf drive)) with
  | .error _ => return false
  | .ok _ =>
    if ← hook.offer drive.name then return true
    else
      let bootDrive ← Action.look fun pair => pair.1.settings.bootDrive
      if drive = bootDrive then hook.offer bootName else return false

/-- Offers the names of some drives, until one is enough. -/
def offerDrives (hook : Hook τ) : List DriveNumber → Action (Session σ × τ) ε Bool
  | [] => return false
  | drive :: rest => do
    if ← offerDrive hook drive then return true else offerDrives hook rest

/-- The drives with the numbers of fixed disks, and the optical drive behind them. -/
def fixedAndOptical (session : Session σ) : List DriveNumber :=
  session.settings.fixedDrives ++
    (session.opticalDrive.filter session.settings.isBeyondFixed).toList

/-- Offers the names of all drives, until one is enough. Tells whether one was. A drive is probed when
its turn comes, and passed over if that fails; the firmware is asked for the number of floppy drives
only when their turn comes. -/
def iterate (hook : Hook τ) : Action (Session σ × τ) ε Bool := do
  let session ← Action.look Prod.fst
  if ← offerDrives hook session.fixedAndOptical then return true
  else
    let count ← beside (onChannel (Channel.ask fun firmware =>
      let (count, after) := Firmware.floppyCount firmware
      (.ok count, after)))
    offerDrives hook (floppyDrives session.settings.bootDrive count)

end FirmwareDisk.Session
