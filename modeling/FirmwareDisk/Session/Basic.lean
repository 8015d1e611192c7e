import FirmwareDisk.Geometry.Probe
import FirmwareDisk.Geometry.Cache
import FirmwareDisk.Transfer.Progress

set_option autoImplicit false

namespace FirmwareDisk

/-- A firmware, together with what has been learned of its drives. A drive is probed when it is first
met. From then on its record answers for it, until it is forgotten; transfers only bring the record
down. -/
structure Session (σ : Type) where
  channel : Channel σ
  settings : Settings
  cache : GeometryCache := {}
  opticalDrive : Option DriveNumber

namespace Session

variable {σ : Type} [Firmware σ]

/-- The optical drive that the machine started from, according to its firmware. -/
def opticalDrive? {ε : Type} (bootDrive : DriveNumber) : Action σ ε (Option DriveNumber) :=
  fun firmware =>
    let request := OpticalPacket.request
    match Firmware.opticalStatus bootDrive { buffer := request, state := firmware } with
    | (.ok (), after) =>
      let packet := OpticalPacket.ofBytes (Bytes.overlay request 0 after.buffer)
      (.ok (if packet.isPlainOptical then some packet.driveNumber else none), after.state)
    | (.error _, after) => (.ok none, after.state)
    | (.fault reason, after) => (.fault reason, after.state)

/-- A new session. -/
def start (settings : Settings) (firmware : σ) : Outcome DiskError (Session σ) :=
  match settings.check with
  | .error cause => .error cause
  | .ok () =>
    let (outcome, firmware) := opticalDrive? settings.bootDrive firmware
    outcome.bind fun opticalDrive =>
      .ok {
        channel := { firmware, staging := Staging.empty settings.stagingSegment }
        settings
        opticalDrive }

def onChannel {ε α : Type} (action : Action (Channel σ) ε α) : Action (Session σ) ε α :=
  Action.onPart channel (fun channel session => { session with channel }) action

/-- The record of a drive, which is probed if it has none. -/
def recordOf (drive : DriveNumber) : Action (Session σ) DiskError Geometry := do
  match ← Action.look fun session => session.cache.get? drive with
  | some record => return record
  | none =>
    let opticalDrive ← Action.look opticalDrive
    let record ← onChannel (Geometry.probe drive opticalDrive)
    Action.change fun session => { session with cache := session.cache.insert record }
    return record

/-- Forgets a drive, so that it is probed when it is next met, and tells its record. -/
def forget (drive : DriveNumber) (session : Session σ) : Option Geometry × Session σ :=
  let (record, cache) := session.cache.take drive
  (record, { session with cache })

/-- Moves up to `count` sectors between a drive and the start of the staging buffer, and tells how
many. What the transfer learned stays in the drive's record. -/
def transfer (drive : DriveNumber) (direction : Direction) (sector count : Nat) :
    Action (Session σ) DiskError Nat := do
  let record ← recordOf drive
  let settings ← Action.look settings
  Action.onPart (fun session => { record, channel := session.channel })
    (fun link session =>
      { session with channel := link.channel, cache := session.cache.insert link.record })
    (FirmwareDisk.transfer settings direction sector count)

/-- A transfer that succeeds has moved something, and nothing that was not asked for. -/
theorem transfer_moved {drive : DriveNumber} {direction : Direction} {sector count moved : Nat}
    {before after : Session σ} (wanted : 0 < count)
    (success : transfer drive direction sector count before = (.ok moved, after)) :
    0 < moved ∧ moved ≤ count := by
  rw [transfer, Action.bind_eq_ok] at success
  obtain ⟨record, resolved, -, success⟩ := success
  rw [Action.bind_eq_ok] at success
  obtain ⟨settings, looked, -, success⟩ := success
  obtain ⟨link, moving, -⟩ := Action.onPart_eq_ok.mp success
  exact FirmwareDisk.transfer_moved wanted moving

end Session

end FirmwareDisk
