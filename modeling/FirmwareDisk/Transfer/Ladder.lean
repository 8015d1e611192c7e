import FirmwareDisk.Transfer.Attempt

/-!
The ladder of a transfer.

A transfer begins on the highest rung that the record of its drive allows. Each refusal resets the
drive and leads one rung down: to shorter transfers, and from single sectors by linear number to
single sectors by address. What was learned on the way stays in the record, so a later transfer
begins where this one ended.
-/

set_option autoImplicit false

namespace FirmwareDisk

/-- One way to try a transfer. -/
@[ext] structure Rung where
  mode : Addressing
  cap : Nat
  length : Nat
deriving DecidableEq, Repr

namespace Rung

/-- The lengths that a refused transfer falls back to. -/
def shorterLengths : List Nat := [63, 7, 1]

/-- The rung on which a transfer begins. By address, it ends with its track at the latest. -/
def top (record : Geometry) (sector count : Nat) : Rung :=
  let cap := max 1 record.cap
  let reach := if record.mode = .chs then min count (record.restOfTrack sector) else count
  { mode := record.mode, cap, length := min reach cap }

def shorter (rung : Rung) : List Rung :=
  (shorterLengths.filter (· < rung.length)).map fun length =>
    { mode := rung.mode, cap := length, length }

/-- The last rung of a record in linear mode: a single sector, by address. -/
def byAddress (record : Geometry) : Rung where
  mode := .chs
  cap := max 1 record.chsCap
  length := 1

/-- All the rungs below a rung, the highest one first. -/
def below (rung : Rung) (record : Geometry) : List Rung :=
  rung.shorter ++ (if rung.mode = .lba then [byAddress record] else [])

/-- The record of a drive that has come down to a rung. -/
def settle (rung : Rung) (record : Geometry) : Geometry :=
  { record with mode := rung.mode, cap := rung.cap }

end Rung

/-- A drive's record, and the channel through which the drive is reached. -/
structure Link (σ : Type) where
  record : Geometry
  channel : Channel σ

def Link.onChannel {σ ε α : Type} (action : Action (Channel σ) ε α) : Action (Link σ) ε α :=
  Action.onPart channel (fun channel link => { link with channel }) action

namespace Transfer

/-- The error of a transfer that has come to the bottom of the ladder. -/
def exhausted (direction : Direction) (drive : DriveNumber) : DiskError :=
  match direction with
  | .read => .readFailed drive.name
  | .write => .writeFailed drive.name

variable {σ : Type} [Firmware σ]

/-- Resets the drive and comes down to a rung. -/
def stepDown (rung : Rung) : Action (Link σ) DiskError Unit :=
  Action.change fun link =>
    { record := rung.settle link.record
      channel :=
        { link.channel with
          firmware := Firmware.reset link.record.drive link.channel.firmware } }

/-- Tries a rung, and tells whether it held. If it did, the record settles on it. -/
def tryRung (settings : Settings) (direction : Direction) (sector : Nat) (rung : Rung) :
    Action (Link σ) DiskError Bool := fun link =>
  match attempt settings link.record direction sector rung.length link.channel with
  | (.ok (), channel) => (.ok true, { record := rung.settle link.record, channel })
  | (.error (.retryable _), channel) => (.ok false, { link with channel })
  | (.error (.final cause), channel) => (.error cause, { link with channel })
  | (.fault reason, channel) => (.fault reason, { link with channel })

/-- Tries a rung, and after each refusal the next one below it. -/
def descend (settings : Settings) (direction : Direction) (sector : Nat) :
    Rung → List Rung → Action (Link σ) DiskError Nat
  | rung, [] => do
    if ← tryRung settings direction sector rung then return rung.length
    else
      let drive ← Action.look fun link => link.record.drive
      Action.refuse (exhausted direction drive)
  | rung, next :: rest => do
    if ← tryRung settings direction sector rung then return rung.length
    else
      stepDown next
      descend settings direction sector next rest

end Transfer

/-- Moves up to `count` sectors from `sector` on between a drive and the start of the staging
buffer, and tells how many. -/
def transfer {σ : Type} [Firmware σ] (settings : Settings) (direction : Direction)
    (sector count : Nat) : Action (Link σ) DiskError Nat := do
  let record ← Action.look Link.record
  if count = 0 then return 0
  else if record.optical ∧ direction = .write then Action.refuse (.readOnly record.drive.name)
  else
    let top := Rung.top record sector count
    Transfer.descend settings direction sector top (top.below record)

end FirmwareDisk
