import FirmwareDisk.Proofs.Checked
import FirmwareDisk.Proofs.Transfer.Soundness

set_option autoImplicit false

namespace FirmwareDisk

namespace Geometry

def restOfTrack64 (record : Geometry) (sector : Nat) : Option Nat :=
  sub64 record.trackLength (sector % record.trackLength)

/-- The address of a sector. -/
def address64 (record : Geometry) (sector : Nat) : Option (Except DiskError Chs) :=
  let track := sector / record.trackLength
  let cylinder := track / record.trackCount
  if addressableSectors < sector ∨ addressableCylinders ≤ cylinder then
    some (.error (.outOfRange record.drive.name sector))
  else
    (add64 (sector % record.trackLength) 1).map fun place =>
      .ok {
        cylinder := UInt16.ofNat cylinder
        head := UInt8.ofNat (track % record.trackCount)
        sector := UInt8.ofNat place }

theorem trackLength_pos (record : Geometry) : 0 < record.trackLength := by
  unfold trackLength
  omega

theorem restOfTrack64_eq (record : Geometry) (sector : Nat) :
    record.restOfTrack64 sector = some (record.restOfTrack sector) :=
  sub64_of_le (Nat.le_of_lt (Nat.mod_lt sector record.trackLength_pos))

theorem address64_eq (record : Geometry) (sector : Nat) :
    record.address64 sector = some (record.address sector) := by
  unfold address64 address
  dsimp only
  split
  · rfl
  · rename_i near
    have place := Nat.mod_le sector record.trackLength
    have most : addressableSectors = 16515072 := rfl
    have limit : UInt64.size = 0x10000000000000000 := rfl
    rw [add64_of_lt (by omega)]
    rfl

end Geometry

/-- The rung on which a transfer begins. -/
def Rung.top64 (record : Geometry) (sector count : Nat) : Option Rung := do
  let cap := max 1 record.cap
  let reach ←
    if record.mode = .chs then (record.restOfTrack64 sector).map (min count) else some count
  return { mode := record.mode, cap, length := min reach cap }

theorem Rung.top64_eq (record : Geometry) (sector count : Nat) :
    Rung.top64 record sector count = some (Rung.top record sector count) := by
  unfold Rung.top64 Rung.top
  rw [record.restOfTrack64_eq]
  split <;> rfl

def Settings.opticalSpan64 (settings : Settings) : Option Nat :=
  if settings.opticalSectorShift < 64 then some settings.opticalSpan else none

theorem Settings.opticalSpan64_eq {settings : Settings} (valid : settings.check = .ok ()) :
    settings.opticalSpan64 = some settings.opticalSpan := by
  obtain ⟨-, -, shift⟩ := settings.check_ok valid
  exact if_pos (by omega)

namespace Transfer

variable {σ : Type} [Firmware σ]

/-- Reads the optical blocks that hold some sectors. -/
def attemptOptical64 (settings : Settings) (drive : DriveNumber) (sector length : Nat) :
    Checked (Channel σ) Refusal Unit := do
  let ratio ← .compute settings.opticalSpan64
  let blocks ← .compute (ceilDiv64 length ratio)
  let sectors ← .compute (mul64 blocks ratio)
  let size ← .compute (mul64 sectors sectorSize)
  .run do
    let raw ← packet blocks (sector / ratio)
    reserve size
    tryTimes (Channel.lend size (Firmware.blockTransfer .read drive raw))
      (.readFailed drive.name) settings.opticalRetryCount

/-- Moves some sectors in the addressing mode of the record. -/
def attemptSectors64 (record : Geometry) (direction : Direction) (sector length : Nat) :
    Checked (Channel σ) Refusal Unit := do
  let size ← .compute (mul64 length sectorSize)
  .run (reserve size)
  match record.mode with
  | .lba => .run do
    let raw ← packet length sector
    Action.mapError .retryable
      (Channel.lend size (Firmware.blockTransfer direction record.drive raw))
  | .chs => do
    let found ← .compute (record.address64 sector)
    .run do
      let address ← Action.mapError .final (Action.ofOutcome (.ofExcept found))
      Action.mapError .retryable
        (Channel.lend size
          (Firmware.chsTransfer direction record.drive address (UInt8.ofNat length)))

/-- Moves `length` sectors from `sector` on between the drive and the start of the staging
buffer. -/
def attempt64 (settings : Settings) (record : Geometry) (direction : Direction)
    (sector length : Nat) : Checked (Channel σ) Refusal Unit :=
  if record.optical then attemptOptical64 settings record.drive sector length
  else attemptSectors64 record direction sector length

/-- Tries a rung. By address, the rest of the track is looked up each time. -/
def tryRung64 (settings : Settings) (direction : Direction) (sector : Nat) (rung : Rung) :
    Checked (Link σ) DiskError Bool := fun link => do
  let _ ← if rung.mode = .chs then link.record.restOfTrack64 sector else some rung.length
  match ← attempt64 settings link.record direction sector rung.length link.channel with
  | (.ok (), channel) => some (.ok true, { record := rung.settle link.record, channel })
  | (.error (.retryable _), channel) => some (.ok false, { link with channel })
  | (.error (.final cause), channel) => some (.error cause, { link with channel })
  | (.fault reason, channel) => some (.fault reason, { link with channel })

/-- Tries a rung, and after each refusal the next one below it. -/
def descend64 (settings : Settings) (direction : Direction) (sector : Nat) :
    Rung → List Rung → Checked (Link σ) DiskError Nat
  | rung, [] => do
    if ← tryRung64 settings direction sector rung then return rung.length
    else
      .run do
        let drive ← Action.look fun link => link.record.drive
        Action.refuse (exhausted direction drive)
  | rung, next :: rest => do
    if ← tryRung64 settings direction sector rung then return rung.length
    else
      .run (stepDown next)
      descend64 settings direction sector next rest

end Transfer

/-- A transfer, with the arithmetic on the sectors that it moves checked. -/
def transfer64 {σ : Type} [Firmware σ] (settings : Settings) (direction : Direction)
    (sector count : Nat) : Checked (Link σ) DiskError Nat := do
  let record ← .run (Action.look Link.record)
  if count = 0 then return 0
  else if record.optical ∧ direction = .write then
    .run (Action.refuse (.readOnly record.drive.name))
  else do
    let top ← .compute (Rung.top64 record sector count)
    Transfer.descend64 settings direction sector top (top.below record)

namespace Transfer

variable {σ : Type} [Firmware σ] {settings : Settings} {direction : Direction} {sector : Nat}

theorem attemptOptical64_fits (valid : settings.check = .ok ()) (drive : DriveNumber) {length : Nat}
    (short : length ≤ 127) (channel : Channel σ) :
    (attemptOptical64 settings drive sector length).Fits
      (attemptOptical settings drive sector length) channel := by
  obtain ⟨positive, few⟩ := opticalSpan_bounds valid
  have whole := Nat.div_mul_le_self (length + (settings.opticalSpan - 1)) settings.opticalSpan
  have limit : UInt64.size = 0x10000000000000000 := rfl
  have size : sectorSize = 512 := rfl
  rw [attemptOptical_of_short valid drive sector short]
  apply Checked.Fits.compute (Settings.opticalSpan64_eq valid)
  apply Checked.Fits.compute (ceilDiv64_of_lt positive (by omega))
  apply Checked.Fits.compute (mul64_of_lt (by omega))
  apply Checked.Fits.compute (mul64_of_lt (by rw [size]; omega))
  exact Checked.fits_run _ channel

theorem attemptSectors64_fits (record : Geometry) {length : Nat} (short : length ≤ 127)
    (channel : Channel σ) :
    (attemptSectors64 record direction sector length).Fits
      (attemptSectors record direction sector length) channel := by
  have limit : UInt64.size = 0x10000000000000000 := rfl
  have size : sectorSize = 512 := rfl
  apply Checked.Fits.compute (mul64_of_lt (by rw [size]; omega))
  apply (Checked.fits_run _ channel).bind
  intro _ reserved _
  cases record.mode with
  | lba => exact Checked.fits_run _ reserved
  | chs =>
    apply Checked.Fits.compute (record.address64_eq sector)
    exact Checked.fits_run _ reserved

theorem attempt64_fits (valid : settings.check = .ok ()) (record : Geometry) {length : Nat}
    (short : length ≤ 127) (channel : Channel σ) :
    (attempt64 settings record direction sector length).Fits
      (attempt settings record direction sector length) channel := by
  unfold attempt64 attempt
  cases record.optical with
  | true => exact attemptOptical64_fits valid record.drive short channel
  | false => exact attemptSectors64_fits record short channel

theorem tryRung64_fits (valid : settings.check = .ok ()) {rung : Rung} (short : rung.length ≤ 127)
    (link : Link σ) :
    (tryRung64 settings direction sector rung).Fits (tryRung settings direction sector rung)
      link := by
  have tried : (attempt64 settings link.record direction sector rung.length) link.channel = some _ :=
    attempt64_fits valid link.record short link.channel
  unfold Checked.Fits tryRung64 tryRung
  rw [link.record.restOfTrack64_eq, tried]
  rcases attempt settings link.record direction sector rung.length link.channel with
    ⟨_ | ⟨_ | _⟩ | _, _⟩ <;> cases rung.mode <;> rfl

/-- However far a transfer comes down, the arithmetic of every rung fits. -/
theorem descend64_fits (valid : settings.check = .ok ()) {rung : Rung} {below : List Rung}
    (short : ∀ lower ∈ rung :: below, lower.length ≤ 127) (link : Link σ) :
    (descend64 settings direction sector rung below).Fits
      (descend settings direction sector rung below) link := by
  induction below generalizing rung link with
  | nil =>
    apply (tryRung64_fits valid (short rung List.mem_cons_self) link).bind
    intro held after _
    cases held with
    | true => exact Checked.fits_run (pure rung.length) after
    | false => exact Checked.fits_run _ after
  | cons next rest ih =>
    apply (tryRung64_fits valid (short rung List.mem_cons_self) link).bind
    intro held after _
    cases held with
    | true => exact Checked.fits_run (pure rung.length) after
    | false =>
      apply (Checked.fits_run _ after).bind
      intro _ stepped _
      exact ih (fun lower member => short lower (List.mem_cons_of_mem rung member)) stepped

end Transfer

theorem transfer64_fits {σ : Type} [Firmware σ] {settings : Settings}
    (valid : settings.check = .ok ()) (direction : Direction) (sector count : Nat) (link : Link σ)
    (few : link.record.cap ≤ 127) :
    (transfer64 settings direction sector count).Fits (transfer settings direction sector count)
      link := by
  apply Checked.Fits.look
  split
  · exact Checked.fits_run (pure 0) link
  · rename_i wanted
    split
    · exact Checked.fits_run _ link
    · apply Checked.Fits.compute (Rung.top64_eq link.record sector count)
      exact Transfer.descend64_fits valid (fun _ member => Rung.ladder_few few wanted member) link

end FirmwareDisk
