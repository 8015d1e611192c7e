import FirmwareDisk.Proofs.Geometry.Marks
import FirmwareDisk.Proofs.Staging

set_option autoImplicit false

namespace FirmwareDisk

/-- The addresses that a probe reads: those of the first sector of the drive, of its second head and
of its second cylinder. -/
def Chs.Probed (address : Chs) : Prop :=
  address.cylinder.toNat + address.head.toNat ≤ 1 ∧ address.sector = 1

/-- What the services that a probe calls keep true of the firmware, and how they may fault. -/
structure Firmware.Keeps {σ : Type} [Firmware σ] (drive : DriveNumber) (kept : σ → Prop)
    (faults : Fault → Prop) : Prop where
  read (address : Chs) (lent : Lent σ) : address.Probed → kept lent.state →
    Action.Ends (Firmware.chsTransfer .read drive address 1) lent
      (fun _ after => kept after.state) (fun _ after => kept after.state)
      (fun reason _ => faults reason)
  version (firmware : σ) : kept firmware → kept (Firmware.extensionsVersion drive firmware).2
  extended (lent : Lent σ) : kept lent.state →
    Action.Ends (Firmware.extendedParameters drive) lent
      (fun _ after => kept after.state) (fun _ after => kept after.state)
      (fun reason _ => faults reason)
  legacy (firmware : σ) : kept firmware →
    Action.Ends (Firmware.legacyParameters drive) firmware
      (fun _ after => kept after) (fun _ after => kept after) (fun reason _ => faults reason)

/-- A baseline whose heads and sectors an address has room for. Only fixed disks are read by linear
number. -/
structure Baseline.Proper (baseline : Baseline) (drive : DriveNumber) : Prop where
  shape : Addressable baseline.heads baseline.sectors
  extended : baseline.extended = true → drive.isFixed = true

namespace Geometry

/-- The records that probing a drive can come to. -/
inductive Probed (opticalDrive : Option DriveNumber) (drive : DriveNumber) : Geometry → Prop where
  | optical (started : opticalDrive = some drive) : Probed opticalDrive drive (ofOptical drive)
  | plain (baseline : Baseline) (cap : Nat) (fbOverride : Bool)
      (other : opticalDrive ≠ some drive) (proper : baseline.Proper drive)
      (positive : 1 ≤ cap) (short : cap ≤ longestTransfer) :
      Probed opticalDrive drive (ofBaseline drive baseline cap fbOverride)

theorem Probed.drive {opticalDrive : Option DriveNumber} {drive : DriveNumber} {record : Geometry}
    (probed : Probed opticalDrive drive record) : record.drive = drive := by
  cases probed with
  | optical => rfl
  | plain => rfl

theorem countOr_bounds (count : Nat) {most default : Nat} (positive : 1 ≤ default)
    (below : default ≤ most) :
    1 ≤ countOr count most default ∧ countOr count most default ≤ most := by
  unfold countOr
  split
  · assumption
  · exact ⟨positive, below⟩

theorem addressable_countOr (heads sectors : Nat) {otherHeads otherSectors : Nat}
    (shape : Addressable otherHeads otherSectors) :
    Addressable (countOr heads mostHeads otherHeads)
      (countOr sectors mostSectors otherSectors) := by
  have headBounds := countOr_bounds heads shape.heads_pos shape.heads_le
  have sectorBounds := countOr_bounds sectors shape.sectors_pos shape.sectors_le
  exact ⟨headBounds.1, headBounds.2, sectorBounds.1, sectorBounds.2⟩

theorem floppyBaseline_proper (bootSector : Bytes) (drive : DriveNumber) :
    (floppyBaseline bootSector).Proper drive where
  shape := addressable_countOr _ _ ⟨by decide, by decide, by decide, by decide⟩
  extended absent := by cases absent

theorem transferCap_bounds (fbOverride : FbOverride) :
    1 ≤ fbOverride.transferCap ∧ fbOverride.transferCap ≤ longestTransfer := by
  unfold FbOverride.transferCap FbOverride.chsOnlyBit longestTransfer
  omega

variable {σ : Type} [Firmware σ] {drive : DriveNumber} {kept : σ → Prop} {faults : Fault → Prop}
  {ε : Type} {channel : Channel σ}

theorem readSector?_ends (keeps : Firmware.Keeps drive kept faults) {address : Chs}
    (probed : address.Probed) (held : kept channel.firmware) :
    Action.Ends (readSector? (ε := ε) drive address) channel
      (fun _ after => kept after.firmware) (fun _ _ => False) (fun reason _ => faults reason) := by
  unfold readSector?
  have served : Action.Ends
      (Channel.lend sectorSize (Firmware.chsTransfer .read drive address 1)) channel
      (fun _ after => kept after.firmware) (fun _ after => kept after.firmware)
      (fun reason _ => faults reason) :=
    Channel.lend_ends (keeps.read address _ probed held)
  have answered : Action.Ends
      ((Channel.lend sectorSize (Firmware.chsTransfer .read drive address 1)).caught :
        Action (Channel σ) ε (Except Status Unit)) channel
      (fun _ after => kept after.firmware) (fun _ _ => False) (fun reason _ => faults reason) :=
    .caught served
  refine answered.bind ?_
  intro answer after still
  cases answer with
  | ok => exact still
  | error => exact still

theorem extendedParameters?_ends (keeps : Firmware.Keeps drive kept faults)
    (held : kept channel.firmware) :
    Action.Ends (extendedParameters? (ε := ε) drive) channel
      (fun _ after => kept after.firmware) (fun _ _ => False) (fun reason _ => faults reason) := by
  have asked := keeps.version channel.firmware held
  unfold Action.Ends extendedParameters?
  rcases version : Firmware.extensionsVersion drive channel.firmware with ⟨_ | level, firmware⟩
  · rw [version] at asked
    exact asked
  · rw [version] at asked
    have given := keeps.extended {
      buffer := Bytes.ofNat 2 DriveParameters.byteSize ++ Bytes.zeros (DriveParameters.byteSize - 2)
      state := firmware } asked
    obtain ⟨_, _, run, done⟩ | ⟨_, _, run, done⟩ | ⟨_, _, run, done⟩ := given.cases <;>
      simp only [run] <;> exact done

theorem fixedBaseline_ends (keeps : Firmware.Keeps drive kept faults)
    (fixed : drive.isFixed = true) (held : kept channel.firmware) :
    Action.Ends (fixedBaseline (ε := ε) drive) channel
      (fun baseline after => baseline.Proper drive ∧ kept after.firmware) (fun _ _ => False)
      (fun reason _ => faults reason) := by
  unfold fixedBaseline
  refine (extendedParameters?_ends keeps held).bind ?_
  intro parameters after still
  have asked : Action.Ends (Channel.ask (Firmware.legacyParameters drive)) after
      (fun _ last => kept last.firmware) (fun _ last => kept last.firmware)
      (fun reason _ => faults reason) := by
    rw [Channel.ask, Action.ends_onPart]
    exact keeps.legacy after.firmware still
  have answered : Action.Ends
      ((Channel.ask (Firmware.legacyParameters drive)).caught :
        Action (Channel σ) ε (Except Status DriveShape)) after
      (fun _ last => kept last.firmware) (fun _ _ => False) (fun reason _ => faults reason) :=
    .caught asked
  have usual : Addressable 255 63 := ⟨by decide, by decide, by decide, by decide⟩
  refine answered.bind ?_
  intro answer last final
  cases answer with
  | ok shape => exact ⟨⟨addressable_countOr _ _ usual, fun _ => fixed⟩, final⟩
  | error => exact ⟨⟨usual, fun _ => fixed⟩, final⟩

theorem trackShape?_ends (keeps : Firmware.Keeps drive kept faults) (base : Nat)
    (held : kept channel.firmware) :
    Action.Ends (trackShape? (ε := ε) drive base) channel
      (fun shape after => (∀ found, shape = some found → Addressable found.heads found.sectors) ∧
        kept after.firmware)
      (fun _ _ => False) (fun reason _ => faults reason) := by
  unfold trackShape?
  refine (readSector?_ends keeps ⟨by decide, rfl⟩ held).bind ?_
  intro secondHead second still
  cases secondHead with
  | none => exact ⟨nofun, still⟩
  | some secondHead =>
    dsimp only
    cases sectorsShown : sectorsShown? base secondHead with
    | none => exact ⟨nofun, still⟩
    | some sectors =>
      refine (readSector?_ends keeps ⟨by decide, rfl⟩ still).bind ?_
      intro secondCylinder last final
      cases secondCylinder with
      | none => exact ⟨nofun, final⟩
      | some secondCylinder =>
        dsimp only
        cases headsShown : headsShown? base sectors secondCylinder with
        | none => exact ⟨nofun, final⟩
        | some heads =>
          refine ⟨?_, final⟩
          intro found same
          cases same
          exact addressable_of_shown sectorsShown headsShown

theorem followOverride_ends (keeps : Firmware.Keeps drive kept faults)
    {opticalDrive : Option DriveNumber} {baseline : Baseline} (fbOverride : FbOverride)
    (other : opticalDrive ≠ some drive) (proper : baseline.Proper drive)
    (held : kept channel.firmware) :
    Action.Ends (followOverride (ε := ε) drive baseline fbOverride) channel
      (fun record after => Probed opticalDrive drive record ∧ kept after.firmware)
      (fun _ _ => False) (fun reason _ => faults reason) := by
  obtain ⟨positive, short⟩ := transferCap_bounds fbOverride
  unfold followOverride
  dsimp only
  split
  · exact ⟨.plain baseline _ true other proper positive short, held⟩
  · refine (trackShape?_ends keeps _ held).bind ?_
    intro shape after shown
    obtain ⟨found, still⟩ := shown
    cases shape with
    | none => exact ⟨.plain _ _ false other ⟨proper.shape, nofun⟩ positive short, still⟩
    | some shape =>
      exact ⟨.plain _ _ true other ⟨found shape rfl, nofun⟩ positive short, still⟩

/-- However its baseline is found, a drive has a proper one. -/
theorem baseline_bind_ends (keeps : Firmware.Keeps drive kept faults) (bootSector : Bytes)
    {next : Baseline → Action (Channel σ) DiskError Geometry}
    {returns : Geometry → Channel σ → Prop} {refuses : DiskError → Channel σ → Prop}
    (held : kept channel.firmware)
    (rest : ∀ baseline last, baseline.Proper drive → kept last.firmware →
      Action.Ends (next baseline) last returns refuses (fun reason _ => faults reason)) :
    Action.Ends
      (if drive.isFixed = true then fixedBaseline drive >>= next
        else next (floppyBaseline bootSector))
      channel returns refuses (fun reason _ => faults reason) := by
  split
  · rename_i fixed
    refine (fixedBaseline_ends keeps fixed held).unrefused.bind ?_
    intro baseline last done
    exact rest baseline last done.1 done.2
  · exact rest _ channel (floppyBaseline_proper bootSector drive) held

/-- A probe comes to a record within its bounds, or finds that the drive cannot be reached. -/
theorem probe_ends (keeps : Firmware.Keeps drive kept faults) (opticalDrive : Option DriveNumber)
    (held : kept channel.firmware) :
    Action.Ends (probe drive opticalDrive) channel
      (fun record after => Probed opticalDrive drive record ∧ kept after.firmware)
      (fun cause after => cause = .unreachable drive.name ∧ kept after.firmware)
      (fun reason _ => faults reason) := by
  unfold probe
  split
  · rename_i started
    exact ⟨.optical started, held⟩
  · rename_i other
    refine (readSector?_ends keeps ⟨by decide, rfl⟩ held).unrefused.bind ?_
    intro bootSector after still
    cases bootSector with
    | none => exact ⟨rfl, still⟩
    | some bootSector =>
      refine baseline_bind_ends keeps bootSector still ?_
      intro baseline last proper final
      split
      · exact ⟨.plain baseline usualCap false other proper (by decide) (by decide), final⟩
      · rename_i fbOverride _
        exact (followOverride_ends keeps fbOverride other proper final).unrefused

end Geometry

end FirmwareDisk
