import FirmwareDisk.Machine.Services
import FirmwareDisk.Proofs.Geometry.Probe

set_option autoImplicit false

namespace FirmwareDisk.Geometry

def firstSector : Chs := { cylinder := 0, head := 0, sector := 1 }

variable {σ : Type} [Firmware σ] {drive : DriveNumber} {base : Nat} {ε : Type}
  {channel after : Channel σ}

/-- How the read of a sector goes that a probe asks for: either the firmware serves it, and the
sector is what the staging buffer then begins with, or the firmware refuses. -/
inductive Sampled (drive : DriveNumber) (address : Chs) (channel : Channel σ) :
    Option Bytes → Channel σ → Prop where
  | served (given : Lent σ)
      (run : Firmware.chsTransfer .read drive address 1 (channel.lent sectorSize) =
        (.ok (), given)) :
      Sampled drive address channel
        (some ((channel.returned sectorSize given).staging.data.take sectorSize))
        (channel.returned sectorSize given)
  | refused (status : Status) (given : Lent σ)
      (run : Firmware.chsTransfer .read drive address 1 (channel.lent sectorSize) =
        (.error status, given)) :
      Sampled drive address channel none (channel.returned sectorSize given)

theorem readSector?_eq (drive : DriveNumber) (address : Chs) (channel : Channel σ) :
    (readSector? drive address : Action (Channel σ) ε _) channel =
      match Firmware.chsTransfer .read drive address 1 (channel.lent sectorSize) with
      | (.ok (), given) =>
        (.ok (some ((channel.returned sectorSize given).staging.data.take sectorSize)),
          channel.returned sectorSize given)
      | (.error _, given) => (.ok none, channel.returned sectorSize given)
      | (.fault reason, given) => (.fault reason, channel.returned sectorSize given) := by
  rw [readSector?, Action.bind_apply]
  simp only [Action.caught, Channel.lend]
  rcases Firmware.chsTransfer .read drive address 1 (channel.lent sectorSize) with
    ⟨_ | _ | _, given⟩ <;> rfl

theorem readSector?_eq_ok {address : Chs} {found : Option Bytes} :
    (readSector? drive address : Action (Channel σ) ε _) channel = (.ok found, after) ↔
      Sampled drive address channel found after := by
  rw [readSector?_eq]
  constructor
  · intro read
    rcases run : Firmware.chsTransfer .read drive address 1 (channel.lent sectorSize) with
      ⟨_ | status | reason, given⟩
    · rw [run] at read
      cases read
      exact .served given run
    · rw [run] at read
      cases read
      exact .refused status given run
    · rw [run] at read
      cases read
  · rintro (⟨given, run⟩ | ⟨status, given, run⟩)
    · rw [run]
    · rw [run]

/-- A drive is given a shape exactly if two of its sectors are read and show it. -/
theorem trackShape?_eq_some {shape : TrackShape} :
    (trackShape? drive base : Action (Channel σ) ε _) channel = (.ok (some shape), after) ↔
      ∃ head middle cylinder, Sampled drive secondHead channel (some head) middle ∧
        Sampled drive secondCylinder middle (some cylinder) after ∧
        (Agrees base head cylinder shape ∨ Undivided base head cylinder shape) := by
  constructor
  · intro run
    obtain ⟨_ | head, middle, read, run⟩ := Action.bind_eq_ok.mp run
    · cases run
    · dsimp only at run
      cases sectorsShown : sectorsShown? base head with
      | none =>
        rw [sectorsShown] at run
        cases run
      | some sectors =>
        rw [sectorsShown] at run
        obtain ⟨_ | cylinder, last, reread, run⟩ := Action.bind_eq_ok.mp run
        · cases run
        · dsimp only at run
          cases headsShown : headsShown? base sectors cylinder with
          | none =>
            rw [headsShown] at run
            cases run
          | some heads =>
            rw [headsShown] at run
            cases run
            exact ⟨head, middle, cylinder, readSector?_eq_ok.mp read, readSector?_eq_ok.mp reread,
              shown_iff.mp ⟨sectorsShown, headsShown⟩⟩
  · rintro ⟨head, middle, cylinder, read, reread, shows⟩
    obtain ⟨sectorsShown, headsShown⟩ := shown_iff.mpr shows
    refine Action.bind_eq_ok.mpr ⟨some head, middle, readSector?_eq_ok.mpr read, ?_⟩
    dsimp only
    rw [sectorsShown]
    refine Action.bind_eq_ok.mpr ⟨some cylinder, after, readSector?_eq_ok.mpr reread, ?_⟩
    dsimp only
    rw [headsShown]
    rfl

/-- A read only faults where the firmware does. -/
theorem readSector?_sampled {address : Chs} {faults : Fault → Prop}
    (fault : ∀ reason, (Firmware.chsTransfer .read drive address 1 (channel.lent sectorSize)).1 =
      .fault reason → faults reason) :
    Action.Ends (readSector? (ε := ε) drive address) channel (Sampled drive address channel)
      (fun _ _ => False) (fun reason _ => faults reason) := by
  have read := readSector?_eq (ε := ε) drive address channel
  rcases run : Firmware.chsTransfer .read drive address 1 (channel.lent sectorSize) with
    ⟨_ | status | reason, given⟩
  · rw [run] at read
    exact .of_run read (.served given run)
  · rw [run] at read
    exact .of_run read (.refused status given run)
  · rw [run] at read
    exact .of_run read (fault reason (congrArg Prod.fst run))

/-- The firmware faults at one of the two reads that look for a shape. -/
inductive Interrupted (drive : DriveNumber) (channel : Channel σ) (reason : Fault) : Prop where
  | first (fault : (Firmware.chsTransfer .read drive secondHead 1 (channel.lent sectorSize)).1 =
      .fault reason)
  | second (head : Bytes) (middle : Channel σ)
      (read : Sampled drive secondHead channel (some head) middle)
      (fault : (Firmware.chsTransfer .read drive secondCylinder 1 (middle.lent sectorSize)).1 =
        .fault reason)

theorem trackShape?_interrupted (drive : DriveNumber) (base : Nat) (channel : Channel σ) :
    Action.Ends (trackShape? (ε := ε) drive base) channel (fun _ _ => True) (fun _ _ => False)
      (fun reason _ => Interrupted drive channel reason) := by
  unfold trackShape?
  refine (readSector?_sampled fun _ => .first).bind ?_
  intro secondHead middle read
  cases secondHead with
  | none => exact trivial
  | some head =>
    dsimp only
    cases sectorsShown? base head with
    | none => exact trivial
    | some sectors =>
      refine (readSector?_sampled fun _ => .second head middle read).bind ?_
      intro secondCylinder last _
      cases secondCylinder with
      | none => exact trivial
      | some cylinder =>
        dsimp only
        cases headsShown? base sectors cylinder <;> exact trivial

def baselineOf (drive : DriveNumber) (bootSector : Bytes) : Action (Channel σ) ε Baseline :=
  if drive.isFixed then fixedBaseline drive else pure (floppyBaseline bootSector)

/-- A probe reads the boot sector, finds a baseline and follows the override, if there is one. -/
theorem probe_eq_bind {opticalDrive : Option DriveNumber} (other : opticalDrive ≠ some drive) :
    (probe drive opticalDrive : Action (Channel σ) DiskError Geometry) = (do
      let some bootSector ← readSector? drive firstSector
        | Action.refuse (.unreachable drive.name)
      let baseline ← baselineOf drive bootSector
      match FbOverride.ofSector? bootSector with
      | none => return ofBaseline drive baseline usualCap false
      | some fbOverride => followOverride drive baseline fbOverride) := by
  rw [probe, if_neg other]
  congr 1
  funext found
  cases found with
  | none => rfl
  | some bootSector =>
    unfold baselineOf
    dsimp only
    split <;> rfl

theorem probe_eq {opticalDrive : Option DriveNumber} {bootSector : Bytes} {baseline : Baseline}
    {booted : Channel σ} (other : opticalDrive ≠ some drive)
    (read : Sampled drive firstSector channel (some bootSector) booted)
    (found : (baselineOf drive bootSector : Action (Channel σ) DiskError _) booted =
      (.ok baseline, after)) :
    probe drive opticalDrive channel =
      match FbOverride.ofSector? bootSector with
      | none => (.ok (ofBaseline drive baseline usualCap false), after)
      | some fbOverride => followOverride drive baseline fbOverride after := by
  rw [probe_eq_bind other, Action.bind_of_ok (readSector?_eq_ok.mpr read)]
  refine (Action.bind_of_ok found).trans ?_
  cases FbOverride.ofSector? bootSector <;> rfl

/-- A baseline without its linear mode, with the shape that was found, if any, in place of its own.
-/
def reshaped (baseline : Baseline) (shape : Option TrackShape) : Baseline where
  extended := false
  reported := baseline.reported
  cylinders := baseline.cylinders
  heads := (shape.map TrackShape.heads).getD baseline.heads
  sectors := (shape.map TrackShape.sectors).getD baseline.sectors

theorem followOverride_of_shape {baseline : Baseline} {fbOverride : FbOverride}
    {shape : Option TrackShape} (limited : ¬ (baseline.extended ∧ !fbOverride.chsOnly))
    (found : (trackShape? drive fbOverride.lba.toNat : Action (Channel σ) ε _) channel =
      (.ok shape, after)) :
    (followOverride drive baseline fbOverride : Action (Channel σ) ε _) channel =
      (.ok (ofBaseline drive (reshaped baseline shape) fbOverride.transferCap shape.isSome),
        after) := by
  unfold followOverride
  dsimp only
  rw [if_neg limited, Action.bind_of_ok found]
  cases shape <;> rfl

/-- A probe that comes to look for the shape which an override speaks of: the drive is not the
optical one, its boot sector carries the override, and its baseline names no linear mode that the
override allows. -/
structure Refining (opticalDrive : Option DriveNumber) (drive : DriveNumber)
    (fbOverride : FbOverride) (baseline : Baseline) (start channel : Channel σ) : Prop where
  other : opticalDrive ≠ some drive
  limited : ¬ (baseline.extended ∧ !fbOverride.chsOnly)
  met : ∃ bootSector booted, Sampled drive firstSector start (some bootSector) booted ∧
    FbOverride.ofSector? bootSector = some fbOverride ∧
    (baselineOf drive bootSector : Action (Channel σ) DiskError _) booted = (.ok baseline, channel)

theorem Refining.probe_eq {opticalDrive : Option DriveNumber} {fbOverride : FbOverride}
    {baseline : Baseline} {start : Channel σ} {shape : Option TrackShape}
    (refining : Refining opticalDrive drive fbOverride baseline start channel)
    (found : (trackShape? drive fbOverride.lba.toNat : Action (Channel σ) DiskError _) channel =
      (.ok shape, after)) :
    probe drive opticalDrive start =
      (.ok (ofBaseline drive (reshaped baseline shape) fbOverride.transferCap shape.isSome),
        after) := by
  obtain ⟨bootSector, booted, read, carried, based⟩ := refining.met
  rw [Geometry.probe_eq refining.other read based, carried]
  exact followOverride_of_shape refining.limited found

/-- How an override without a linear mode is followed. A shape is found exactly if both sectors are
read and it agrees with their marks, or if the marks are the same and the shape is that of a single
head, under which the address just read has no sector. Otherwise none is found, unless the firmware
faults. A probe takes the heads and sectors of the shape and sets the flag; without a shape it keeps
those of the baseline, and the flag stays unset. -/
theorem refinement_follows_marks (drive : DriveNumber) (fbOverride : FbOverride)
    (channel : Channel σ) :
    let base := fbOverride.lba.toNat
    let run := (trackShape? drive base : Action (Channel σ) DiskError _) channel
    (∀ shape after, run = (.ok (some shape), after) ↔
      ∃ head middle cylinder, Sampled drive secondHead channel (some head) middle ∧
        Sampled drive secondCylinder middle (some cylinder) after ∧
        (Agrees base head cylinder shape ∨ Undivided base head cylinder shape)) ∧
    (∀ head cylinder shape, Undivided base head cylinder shape →
      (secondHead.linear64 shape.heads shape.sectors : Outcome DiskError _) = .ok none) ∧
    ((∃ shape, run.1 = .ok (some shape)) ∨ run.1 = .ok none ∨
      ∃ reason, run.1 = .fault reason ∧ Interrupted drive channel reason) ∧
    ∀ opticalDrive baseline start, Refining opticalDrive drive fbOverride baseline start channel →
      (∀ shape, run.1 = .ok (some shape) → ∃ record,
        probe drive opticalDrive start = (.ok record, run.2) ∧ record.heads = shape.heads ∧
          record.sectors = shape.sectors ∧ record.fbOverride = true) ∧
      (run.1 = .ok none → ∃ record,
        probe drive opticalDrive start = (.ok record, run.2) ∧ record.heads = baseline.heads ∧
          record.sectors = baseline.sectors ∧ record.fbOverride = false) := by
  intro base run
  refine ⟨fun shape after => trackShape?_eq_some,
    fun head cylinder shape undivided => undivided.unnamed, ?_, ?_⟩
  · obtain ⟨shape, after, found, -⟩ | ⟨_, _, _, never⟩ | ⟨reason, after, fault, interrupted⟩ :=
      (trackShape?_interrupted (ε := DiskError) drive base channel).cases
    · cases shape with
      | none => exact Or.inr (Or.inl (congrArg Prod.fst found))
      | some shape => exact Or.inl ⟨shape, congrArg Prod.fst found⟩
    · exact never.elim
    · exact Or.inr (Or.inr ⟨reason, congrArg Prod.fst fault, interrupted⟩)
  · intro opticalDrive baseline start refining
    refine ⟨?_, ?_⟩
    · intro shape found
      exact ⟨_, refining.probe_eq (Action.run_of_ok found), rfl, rfl, rfl⟩
    · intro found
      exact ⟨_, refining.probe_eq (Action.run_of_ok found), rfl, rfl, rfl⟩

/-- A drive with two cylinders of four heads and 32 sectors, whose boot sector carries an override.
The first sector of the second head has the mark 32, that of the second cylinder a given one. -/
def markedImage (mark : UInt8) : ImageFile where
  path := "marked.img"
  byteLength := 256 * 512
  byteAt := fun offset =>
    ([(0x1ad, 0x3f), (0x1b0, 0x20), (0x1b1, 4), (0x1b4, 0x46), (0x1b5, 0x42), (0x1b6, 0x42),
      (0x1b7, 0x46), (0x1fe, 0x55), (0x1ff, 0xaa), (32 * 512 + 0x1fe, 32),
      (128 * 512 + 0x1fe, mark)].lookup offset).getD 0

/-- The override of a marked drive. -/
def markedOverride : FbOverride where
  cap := 0x3f
  lba := 0
  sectorsPerTrack := 0x20
  heads := 4
  bootBase := 0

/-- The baseline of a marked drive. -/
def markedBaseline : Baseline where
  extended := false
  reported := 0
  cylinders := 2
  heads := 4
  sectors := 32

/-- A machine with a marked drive. -/
def markedStart (mark : UInt8) : Channel Machine where
  firmware := Machine.attach {} 0x80 {
    kind := .fixed
    medium := { store := .image (markedImage mark) }
    legacy := { cylinders := 2, heads := 4, sectors := 32 }
    extensions := false }
  staging := .empty 0x6800

/-- The marks 32 and 128 belong to four heads of 32 sectors. -/
theorem refinement_follows_marks_told :
    ∃ channel record, Refining none 0x80 markedOverride markedBaseline (markedStart 128) channel ∧
      (trackShape? 0x80 0 channel : Outcome DiskError _ × _).1 =
        .ok (some { heads := 4, sectors := 32 }) ∧
      (probe 0x80 none (markedStart 128)).1 = .ok record ∧ record.heads = 4 ∧
      record.sectors = 32 ∧ record.fbOverride = true := by
  let booted := (readSector? 0x80 firstSector (markedStart 128) : Outcome DiskError _ × _)
  let based := (baselineOf 0x80 ((markedImage 128).bytesFrom 0 512) booted.2 :
    Outcome DiskError _ × _)
  have read : booted.1 = .ok (some ((markedImage 128).bytesFrom 0 512)) := by decide +kernel
  have found : based.1 = .ok markedBaseline := by decide +kernel
  have refining : Refining none 0x80 markedOverride markedBaseline (markedStart 128) based.2 := {
    other := nofun
    limited := by decide
    met := ⟨_, booted.2, readSector?_eq_ok.mp (Action.run_of_ok read), by decide +kernel,
      Action.run_of_ok found⟩ }
  have shaped : (trackShape? 0x80 0 based.2 : Outcome DiskError _ × _).1 =
      .ok (some { heads := 4, sectors := 32 }) := by decide +kernel
  obtain ⟨record, run, heads, sectors, followed⟩ :=
    ((refinement_follows_marks 0x80 markedOverride based.2).2.2.2 _ _ _ refining).1 _ shaped
  exact ⟨based.2, record, refining, shaped, congrArg Prod.fst run, heads, sectors, followed⟩

/-- A drive with the same mark twice is given a single head and followed, although the second of the
sectors that were read to find that out is then nowhere. -/
theorem refinement_merges_heads :
    (trackShape? 0x80 0 (markedStart 32) : Outcome DiskError _ × _).1 =
        .ok (some { heads := 1, sectors := 32 }) ∧
      (secondHead.linear64 1 32 : Outcome DiskError _) = .ok none ∧
      (probe 0x80 none (markedStart 32)).1 = .ok {
        drive := 0x80, mode := .chs, optical := false, fbOverride := true, sectors := 32
        heads := 1, cylinders := 2, cap := 63, chsCap := 63, totalSectors := 64 } := by
  refine ⟨?_, rfl, ?_⟩
  · decide +kernel
  · decide +kernel

end FirmwareDisk.Geometry
