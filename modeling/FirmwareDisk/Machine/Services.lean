import FirmwareDisk.Machine.Basic

set_option autoImplicit false

namespace FirmwareDisk.Machine

/-- Runs a drive's service, if the drive answers. -/
def onDrive (number : DriveNumber) (service : Action (Lent Drive) Status Unit) :
    Action (Lent Machine) Status Unit := fun lent =>
  match lent.state.answering? number with
  | none => (.error .timeout, lent)
  | some drive =>
    let (outcome, after) := service { buffer := lent.buffer, state := drive }
    (outcome, { buffer := after.buffer, state := lent.state.attach number after.state })

def logCall (call : Call) : Action (Lent Machine) Status Unit :=
  Lent.aside (Action.change fun machine => machine.log call)

def extensionsLevel : UInt8 := 0x30

instance : Firmware Machine where
  chsTransfer direction number address count := do
    logCall (.legacy direction number address count)
    onDrive number (Drive.chsTransfer direction address count)
  blockTransfer direction number raw :=
    match DiskAddressPacket.decode? raw with
    | none => Action.refuse .invalidCommand
    | some packet => do
      logCall (.extended direction number packet)
      onDrive number (Drive.blockTransfer direction packet)
  extensionsVersion number machine :=
    (((machine.answering? number).filter (·.extensions)).map fun _ => extensionsLevel, machine)
  extendedParameters number :=
    onDrive number fun lent =>
      if lent.state.extensions then
        (.ok (), { lent with buffer := lent.state.parameters.writeInto lent.buffer })
      else (.error .invalidCommand, lent)
  legacyParameters number := fun machine =>
    match machine.answering? number with
    | none => (.error .timeout, machine)
    | some drive =>
      if drive.kind = .optical then (.error .invalidCommand, machine)
      else (.ok drive.legacy, machine)
  opticalStatus number := fun lent =>
    if number ≠ lent.state.bootDrive then (.error .invalidCommand, lent)
    else
      onDrive number (fun lent =>
        if lent.state.kind = .optical then
          let packet : OpticalPacket :=
            { mediaType := 0, driveNumber := number, controllerNumber := 0, imageBlock := 0 }
          (.ok (), { lent with buffer := packet.writeInto lent.buffer })
        else (.error .invalidCommand, lent)) lent
  floppyCount machine :=
    (machine.floppies.getD (UInt8.ofNat machine.attachedFloppies), machine)
  reset number machine := machine.log (.reset number)

end FirmwareDisk.Machine
