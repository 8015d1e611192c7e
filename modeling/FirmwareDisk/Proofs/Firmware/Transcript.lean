import FirmwareDisk.Proofs.Simulation

set_option autoImplicit false

namespace FirmwareDisk

/-- A request that a firmware serves. -/
inductive Request where
  | chs (direction : Direction) (drive : DriveNumber) (address : Chs) (count : UInt8)
  | block (direction : Direction) (drive : DriveNumber) (packet : Bytes)
  | extensionsVersion (drive : DriveNumber)
  | extendedParameters (drive : DriveNumber)
  | legacyParameters (drive : DriveNumber)
  | opticalStatus (drive : DriveNumber)
  | floppyCount
  | reset (drive : DriveNumber)
deriving DecidableEq

/-- A request, with the length of the buffer that was lent for it and the way in which it ended. -/
structure Exchange where
  request : Request
  /-- The length of the buffer. -/
  lent : Nat := 0
  answer : Outcome Status Unit := .ok ()
deriving DecidableEq

/-- A firmware with the transcript of what it was asked. -/
structure Watched (σ : Type) where
  firmware : σ
  transcript : List Exchange := []

namespace Watched

variable {σ ε α : Type}

def ending (outcome : Outcome Status α) : Outcome Status Unit :=
  outcome.bind fun _ => .ok ()

/-- A service that is lent a buffer, written down. -/
def served (request : Request) (service : Action (Lent σ) Status Unit) :
    Action (Lent (Watched σ)) Status Unit := fun lent =>
  let (answer, after) := service { buffer := lent.buffer, state := lent.state.firmware }
  (answer, {
    buffer := after.buffer
    state := {
      firmware := after.state
      transcript := lent.state.transcript ++
        [{ request, lent := lent.buffer.length, answer }] } })

def asked (request : Request) (question : σ → α × σ) : Watched σ → α × Watched σ := fun watched =>
  let (answer, firmware) := question watched.firmware
  (answer, { firmware, transcript := watched.transcript ++ [{ request }] })

instance [Firmware σ] : Firmware (Watched σ) where
  chsTransfer direction drive address count :=
    served (.chs direction drive address count)
      (Firmware.chsTransfer direction drive address count)
  blockTransfer direction drive packet :=
    served (.block direction drive packet) (Firmware.blockTransfer direction drive packet)
  extensionsVersion drive := asked (.extensionsVersion drive) (Firmware.extensionsVersion drive)
  extendedParameters drive :=
    served (.extendedParameters drive) (Firmware.extendedParameters drive)
  legacyParameters drive := fun watched =>
    let (answer, firmware) := Firmware.legacyParameters drive watched.firmware
    (answer, {
      firmware
      transcript := watched.transcript ++
        [{ request := .legacyParameters drive, answer := ending answer }] })
  opticalStatus drive := served (.opticalStatus drive) (Firmware.opticalStatus drive)
  floppyCount := asked .floppyCount Firmware.floppyCount
  reset drive watched := {
    firmware := Firmware.reset drive watched.firmware
    transcript := watched.transcript ++ [{ request := .reset drive }] }

/-- A watched firmware serves as it does unwatched. -/
theorem simulation [Firmware σ] : Firmware.Simulation (firmware : Watched σ → σ) where
  chsTransfer _ _ _ _ _ := rfl
  blockTransfer _ _ _ _ := rfl
  extensionsVersion _ _ := rfl
  extendedParameters _ _ := rfl
  legacyParameters _ _ := rfl
  reset _ _ := rfl

end Watched

def Link.watched {σ : Type} (link : Link σ) : Link (Watched σ) :=
  link.map fun firmware => { firmware }

def Link.transcript {σ : Type} (link : Link (Watched σ)) : List Exchange :=
  link.channel.firmware.transcript

theorem transfer_watched {σ : Type} [Firmware σ] (settings : Settings) (direction : Direction)
    (sector count : Nat) (link : Link σ) :
    transfer settings direction sector count link =
      ((transfer settings direction sector count link.watched).1,
        (transfer settings direction sector count link.watched).2.map Watched.firmware) :=
  simulates_transfer Watched.simulation settings direction sector count link.watched

end FirmwareDisk
