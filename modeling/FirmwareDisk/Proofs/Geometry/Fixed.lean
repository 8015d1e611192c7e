import FirmwareDisk.Proofs.Transfer.Steady

set_option autoImplicit false

namespace FirmwareDisk

variable {number : DriveNumber} {drive : Drive} {medium : Medium}

theorem Drive.fixed_steady (sound : medium.Sound) : (Drive.fixed medium).Steady where
  plain := nofun
  answers := rfl
  extended := rfl
  working := rfl
  calm := rfl
  positive := nofun
  sound := sound

theorem Drive.fixed_shape :
    Addressable (Drive.fixed medium).legacy.heads (Drive.fixed medium).legacy.sectors := by
  show Addressable 255 63
  exact ⟨by decide, by decide, by decide, by decide⟩

theorem Drive.le_addressed_fixed (medium : Medium) : 255 * 63 ≤ (Drive.fixed medium).addressed := by
  simp only [addressed, fixed]
  omega

namespace Machine

theorem answering?_steady {machine : Machine} (attached : machine.drive? number = some drive)
    (steady : drive.Steady) : machine.answering? number = some drive := by
  simp only [answering?, attached, Option.filter_some, steady.answers, Bool.not_false, ↓reduceIte]

/-- Reading one sector by address leaves the sector in the buffer. -/
theorem chsTransfer_reads {address : Chs} {sector : Nat} (lent : Lent Machine)
    (steady : drive.Steady) (attached : lent.state.drive? number = some drive)
    (shape : Addressable drive.legacy.heads drive.legacy.sectors)
    (whole : lent.buffer.length = sectorSize) (serves : drive.Serves address 1 sectorSize)
    (named : address.linear? drive.legacy.heads drive.legacy.sectors = some sector)
    (fits : sector + 1 ≤ BlockDevice.totalSectors drive.medium) :
    Action.Ends (Firmware.chsTransfer .read number address 1) lent
      (fun _ after => after.buffer = drive.medium.flat.slice (sector * sectorSize) sectorSize ∧
        after.state.drive? number = some drive)
      (fun _ _ => False) (fun _ _ => False) := by
  have shaped : lent.state.Shaped number := by
    intro held found
    cases attached.symm.trans found
    exact shape
  have served := chsTransfer_steady lent steady attached shape
    (show drive.Serves address (1 : UInt8).toNat lent.buffer.length by rw [whole]; exact serves)
    named fits
  refine (served.and (chsTransfer_ends .read address 1 lent shaped)).mono ?_ ?_
  · intro _ after done
    obtain ⟨still, held, place, found, moved⟩ := done
    cases attached.symm.trans moved.attached
    cases named.symm.trans found
    refine ⟨?_, still⟩
    simp only [moved.buffer, whole, Direction.left]
  · intro _ after refused
    exact absurd refused.1.2 (by decide)

end Machine

namespace Geometry

variable {channel : Channel Machine} {ε : Type}

/-- A probe that reads a sector of a steady drive gets its bytes. -/
theorem readSector?_steady {address : Chs} {sector : Nat} (steady : drive.Steady)
    (attached : channel.firmware.drive? number = some drive)
    (shape : Addressable drive.legacy.heads drive.legacy.sectors)
    (serves : drive.Serves address 1 sectorSize)
    (named : address.linear? drive.legacy.heads drive.legacy.sectors = some sector)
    (fits : sector + 1 ≤ BlockDevice.totalSectors drive.medium) :
    Action.Ends (readSector? (ε := ε) number address) channel
      (fun found after =>
        found = some (drive.medium.flat.slice (sector * sectorSize) sectorSize) ∧
          after.firmware.drive? number = some drive)
      (fun _ _ => False) (fun _ _ => False) := by
  have room : sectorSize ≤ Staging.byteSize := by decide
  have whole := channel.staging.length_take_data room
  unfold readSector?
  apply Action.ends_caught_bind
  apply Channel.lend_ends
  refine (Machine.chsTransfer_reads _ steady attached shape whole serves named fits).mono ?_
    (fun _ _ never => never.elim)
  intro _ after done
  obtain ⟨buffer, still⟩ := done
  have length : (drive.medium.flat.slice (sector * sectorSize) sectorSize).length = sectorSize :=
    Flat.length_slice _ _ _
  have staged := channel.staging.take_fill
    (drive.medium.flat.slice (sector * sectorSize) sectorSize) (by rw [length]; exact room)
  rw [length] at staged
  rw [Channel.returned, buffer, List.take_of_length_le (Nat.le_of_eq length)]
  exact ⟨congrArg some staged, still⟩

/-- The extended services tell of a steady drive what the drive reports. -/
theorem extendedParameters?_steady (steady : drive.Steady)
    (attached : channel.firmware.drive? number = some drive) :
    Action.Ends (extendedParameters? (ε := ε) number) channel
      (fun found after => found = some drive.parameters ∧
        after.firmware.drive? number = some drive)
      (fun _ _ => False) (fun _ _ => False) := by
  have answering := Machine.answering?_steady attached steady
  have size : (Bytes.ofNat 2 DriveParameters.byteSize ++
      Bytes.zeros (DriveParameters.byteSize - 2)).length = DriveParameters.byteSize := by decide
  have told : DriveParameters.ofBytes (Bytes.overlay
      (Bytes.ofNat 2 DriveParameters.byteSize ++ Bytes.zeros (DriveParameters.byteSize - 2)) 0
      (drive.parameters.writeInto
        (Bytes.ofNat 2 DriveParameters.byteSize ++ Bytes.zeros (DriveParameters.byteSize - 2)))) =
      drive.parameters := by
    rw [Bytes.overlay_all (by rw [DriveParameters.writeInto, Bytes.length_overlay])]
    exact drive.parameters.ofBytes_writeInto (by rw [size]; decide)
  have kept : (channel.firmware.attach number drive).drive? number = some drive := by
    rw [Machine.drive?_attach, if_pos rfl]
  unfold Action.Ends extendedParameters?
  simp only [Firmware.extensionsVersion, Firmware.extendedParameters, Machine.onDrive, answering,
    Option.filter_some, steady.extended, ↓reduceIte, Option.map_some]
  exact ⟨congrArg some told, kept⟩

theorem legacyParameters_steady (steady : drive.Steady)
    (attached : channel.firmware.drive? number = some drive) :
    Channel.ask (Firmware.legacyParameters number) channel = (.ok drive.legacy, channel) := by
  have answering := Machine.answering?_steady attached steady
  simp only [Channel.ask, Action.onPart, Firmware.legacyParameters, answering, steady.plain,
    ↓reduceIte]

/-- A hard disk's baseline is what the drive reports, where that makes sense. -/
theorem fixedBaseline_steady (steady : drive.Steady)
    (attached : channel.firmware.drive? number = some drive) :
    Action.Ends (fixedBaseline (ε := ε) number) channel
      (fun baseline after => baseline = {
          extended := true
          reported := reportedSize drive.parameters
          cylinders := drive.legacy.cylinders
          heads := countOr drive.legacy.heads mostHeads 255
          sectors := countOr drive.legacy.sectors mostSectors 63 } ∧
        after.firmware.drive? number = some drive)
      (fun _ _ => False) (fun _ _ => False) := by
  unfold fixedBaseline
  refine (extendedParameters?_steady steady attached).bind ?_
  intro parameters after told
  obtain ⟨rfl, still⟩ := told
  apply Action.ends_caught_bind
  unfold Action.Ends
  rw [legacyParameters_steady steady still]
  exact ⟨rfl, still⟩

/-- A steady hard disk whose first sector carries no override is taken for what it reports. -/
theorem probe_steady {opticalDrive : Option DriveNumber} (steady : drive.Steady)
    (attached : channel.firmware.drive? number = some drive) (fixed : number.isFixed = true)
    (other : opticalDrive ≠ some number)
    (shape : Addressable drive.legacy.heads drive.legacy.sectors)
    (cylinders : 0 < drive.legacy.cylinders) (wanted : 0 < BlockDevice.totalSectors drive.medium)
    (unmarked : FbOverride.ofSector? (drive.medium.flat.slice 0 sectorSize) = none) :
    Action.Ends (probe number opticalDrive) channel
      (fun record after => record = ofBaseline number {
          extended := true
          reported := reportedSize drive.parameters
          cylinders := drive.legacy.cylinders
          heads := countOr drive.legacy.heads mostHeads 255
          sectors := countOr drive.legacy.sectors mostSectors 63 } usualCap false ∧
        after.firmware.drive? number = some drive)
      (fun _ _ => False) (fun _ _ => False) := by
  have serves : drive.Serves { cylinder := 0, head := 0, sector := 1 } 1 sectorSize := by
    refine ⟨Nat.one_ne_zero, by decide, ?_, shape.heads_pos, cylinders, rfl⟩
    exact shape.sectors_pos
  have named : ({ cylinder := 0, head := 0, sector := 1 } : Chs).linear? drive.legacy.heads
      drive.legacy.sectors = some 0 := by
    have heads := shape.heads_pos
    have sectors := shape.sectors_pos
    simp [Chs.linear?]
    omega
  unfold probe
  rw [if_neg other]
  refine (readSector?_steady steady attached shape serves named wanted).bind ?_
  intro bootSector after read
  obtain ⟨rfl, still⟩ := read
  dsimp only
  rw [if_pos fixed]
  refine (fixedBaseline_steady steady still).bind ?_
  intro baseline last found
  rw [Nat.zero_mul, unmarked]
  exact ⟨congrArg (ofBaseline number · usualCap false) found.1, found.2⟩

/-- A hard disk reports the size of its medium. -/
theorem reportedSize_fixed (wanted : 0 < BlockDevice.totalSectors medium)
    (small : BlockDevice.totalSectors medium < UInt64.size) :
    reportedSize (Drive.fixed medium).parameters = BlockDevice.totalSectors medium := by
  have cylinders : (Drive.fixed medium).parameters.cylinders =
      UInt32.ofNat (min (max (BlockDevice.totalSectors medium / (255 * 63)) 1) 1024) := rfl
  have size : (Drive.fixed medium).parameters.totalSectors =
      UInt64.ofNat (BlockDevice.totalSectors medium) := rfl
  have told : (UInt64.ofNat (BlockDevice.totalSectors medium)).toNat =
      BlockDevice.totalSectors medium := by
    rw [UInt64.toNat_ofNat', Nat.mod_eq_of_lt small]
  have counted : ¬ (Drive.fixed medium).parameters.cylinders =
      DriveParameters.uncountedCylinders := by
    intro same
    have numbers := congrArg UInt32.toNat same
    rw [cylinders, UInt32.toNat_ofNat', DriveParameters.uncountedCylinders] at numbers
    have uncounted : (65535 : UInt32).toNat = 65535 := rfl
    omega
  have sized : (Drive.fixed medium).parameters.totalSectors ≠ 0 := by
    intro empty
    rw [size] at empty
    rw [empty] at told
    have zero : (0 : UInt64).toNat = 0 := rfl
    omega
  rw [reportedSize, if_neg counted, if_pos sized, size, told]

/-- The record of a hard disk of a size, before any of its transfers was refused. -/
def ofFixed (drive : DriveNumber) (size : Nat) : Geometry where
  drive
  mode := .lba
  optical := false
  fbOverride := false
  sectors := 63
  heads := 255
  cylinders := min (max (size / (255 * 63)) 1) 1024
  cap := longestTransfer
  chsCap := usualCap
  totalSectors := max size (255 * 63)

/-- A hard disk without faults or an override is taken for as large as it is, or as one cylinder. -/
theorem probe_fixed {opticalDrive : Option DriveNumber} (sound : medium.Sound)
    (attached : channel.firmware.drive? number = some (Drive.fixed medium))
    (fixed : number.isFixed = true) (other : opticalDrive ≠ some number)
    (wanted : 0 < BlockDevice.totalSectors medium)
    (unmarked : FbOverride.ofSector? (medium.flat.slice 0 sectorSize) = none) :
    Action.Ends (probe number opticalDrive) channel
      (fun record after => record = ofFixed number (BlockDevice.totalSectors medium) ∧
        after.firmware.drive? number = some (Drive.fixed medium))
      (fun _ _ => False) (fun _ _ => False) := by
  have cylinders : 0 < (Drive.fixed medium).legacy.cylinders := by
    simp only [Drive.fixed]
    omega
  refine (probe_steady (Drive.fixed_steady sound) attached fixed other Drive.fixed_shape cylinders
    wanted unmarked).mono ?_ (fun _ _ never => never)
  intro record after found
  refine ⟨?_, found.2⟩
  rw [found.1, reportedSize_fixed wanted sound.size]
  have size : max (BlockDevice.totalSectors medium)
      (min (max (BlockDevice.totalSectors medium / (255 * 63)) 1) 1024 * 255 * 63) =
        max (BlockDevice.totalSectors medium) (255 * 63) := by
    omega
  exact Geometry.ext rfl rfl rfl rfl rfl rfl rfl rfl rfl size

end Geometry

end FirmwareDisk
