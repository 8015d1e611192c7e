import FirmwareDisk.Machine.Services

set_option autoImplicit false

namespace FirmwareDisk

/-- Answers that a firmware gives whatever its drives are. -/
structure Overrides where
  opticalStatus : Option OpticalPacket := none
  failExtended : List DriveNumber := []
  failLegacy : List DriveNumber := []

/-- A machine with overrides in front of it. -/
structure OverriddenMachine where
  machine : Machine
  overrides : Overrides := {}

namespace OverriddenMachine

def behind {ε α : Type} (service : Action Machine ε α) : Action OverriddenMachine ε α :=
  Action.onPart machine (fun machine overridden => { overridden with machine }) service

/-- A service of the machine behind the overrides that works on a buffer. -/
def behindLent (service : Action (Lent Machine) Status Unit) :
    Action (Lent OverriddenMachine) Status Unit :=
  Action.onPart (fun lent => { buffer := lent.buffer, state := lent.state.machine })
    (fun after lent =>
      { buffer := after.buffer, state := { lent.state with machine := after.state } })
    service

instance : Firmware OverriddenMachine where
  chsTransfer direction number address count :=
    behindLent (Firmware.chsTransfer direction number address count)
  blockTransfer direction number packet :=
    behindLent (Firmware.blockTransfer direction number packet)
  extensionsVersion number overridden :=
    let (version, machine) := Firmware.extensionsVersion number overridden.machine
    (version, { overridden with machine })
  extendedParameters number := fun lent =>
    if number ∈ lent.state.overrides.failExtended then (.error .notReady, lent)
    else behindLent (Firmware.extendedParameters number) lent
  legacyParameters number := fun overridden =>
    if number ∈ overridden.overrides.failLegacy then (.error .notReady, overridden)
    else behind (Firmware.legacyParameters number) overridden
  opticalStatus number := fun lent =>
    match lent.state.overrides.opticalStatus with
    | some packet => (.ok (), { lent with buffer := packet.writeInto lent.buffer })
    | none => behindLent (Firmware.opticalStatus number) lent
  floppyCount overridden :=
    let (count, machine) := Firmware.floppyCount overridden.machine
    (count, { overridden with machine })
  reset number overridden :=
    { overridden with machine := Firmware.reset number overridden.machine }

end OverriddenMachine

end FirmwareDisk
