import FirmwareDisk.Proofs.Geometry.Inquiry

set_option autoImplicit false

namespace FirmwareDisk.Geometry

section Answers

variable {σ : Type} [Firmware σ]

def parameterBlock : Bytes :=
  Bytes.ofNat 2 DriveParameters.byteSize ++ Bytes.zeros (DriveParameters.byteSize - 2)

/-- What the extended services tell of a drive: their version, if the drive has them, and the drive
parameters, if the firmware then gives them. -/
inductive Extended (drive : DriveNumber) (channel : Channel σ) :
    Option UInt8 → Option DriveParameters → Channel σ → Prop where
  | missing (firmware : σ)
      (asked : Firmware.extensionsVersion drive channel.firmware = (none, firmware)) :
      Extended drive channel none none { channel with firmware }
  | refused (version : UInt8) (firmware : σ) (status : Status) (given : Lent σ)
      (asked : Firmware.extensionsVersion drive channel.firmware = (some version, firmware))
      (run : Firmware.extendedParameters drive { buffer := parameterBlock, state := firmware } =
        (.error status, given)) :
      Extended drive channel (some version) none { channel with firmware := given.state }
  | told (version : UInt8) (firmware : σ) (given : Lent σ)
      (asked : Firmware.extensionsVersion drive channel.firmware = (some version, firmware))
      (run : Firmware.extendedParameters drive { buffer := parameterBlock, state := firmware } =
        (.ok (), given)) :
      Extended drive channel (some version)
        (some (.ofBytes (Bytes.overlay parameterBlock 0 given.buffer)))
        { channel with firmware := given.state }

/-- What the legacy services tell of a drive. -/
inductive Legacy (drive : DriveNumber) (channel : Channel σ) :
    Option DriveShape → Channel σ → Prop where
  | told (shape : DriveShape) (firmware : σ)
      (run : Firmware.legacyParameters drive channel.firmware = (.ok shape, firmware)) :
      Legacy drive channel (some shape) { channel with firmware }
  | refused (status : Status) (firmware : σ)
      (run : Firmware.legacyParameters drive channel.firmware = (.error status, firmware)) :
      Legacy drive channel none { channel with firmware }

/-- What the firmware tells of a drive, apart from its sectors. Only fixed disks are asked for. -/
inductive Told (drive : DriveNumber) (channel : Channel σ) :
    Option UInt8 → Option DriveParameters → Option DriveShape → Channel σ → Prop where
  | floppy (low : drive.isFixed = false) : Told drive channel none none none channel
  | fixed (high : drive.isFixed = true) {version : Option UInt8}
      {parameters : Option DriveParameters} {legacy : Option DriveShape} {middle after : Channel σ}
      (extended : Extended drive channel version parameters middle)
      (shape : Legacy drive middle legacy after) :
      Told drive channel version parameters legacy after

end Answers

/-- The size that drive parameters report. -/
inductive Reports : Option DriveParameters → Nat → Prop where
  | silent : Reports none 0
  | uncounted (parameters : DriveParameters) (many : parameters.cylinders = 65535) :
      Reports (some parameters) unknownTotal
  | total (parameters : DriveParameters) (counted : parameters.cylinders ≠ 65535)
      (given : parameters.totalSectors ≠ 0) :
      Reports (some parameters) parameters.totalSectors.toNat
  | rebuilt (parameters : DriveParameters) (counted : parameters.cylinders ≠ 65535)
      (missing : parameters.totalSectors = 0)
      (fits : parameters.cylinders.toNat * parameters.heads.toNat * parameters.sectors.toNat <
        UInt64.size) :
      Reports (some parameters)
        (parameters.cylinders.toNat * parameters.heads.toNat * parameters.sectors.toNat)
  | immense (parameters : DriveParameters) (counted : parameters.cylinders ≠ 65535)
      (missing : parameters.totalSectors = 0)
      (overflow : UInt64.size ≤
        parameters.cylinders.toNat * parameters.heads.toNat * parameters.sectors.toNat) :
      Reports (some parameters) unknownTotal

/-- The size that is computed is the one reported. -/
theorem reports_reportedSize (parameters : Option DriveParameters) :
    Reports parameters ((parameters.map reportedSize).getD 0) := by
  cases parameters with
  | none => exact .silent
  | some parameters =>
    simp only [Option.map_some, Option.getD_some, reportedSize]
    split
    · rename_i many
      exact .uncounted parameters many
    · rename_i counted
      split
      · rename_i given
        exact .total parameters counted given
      · rename_i missing
        rw [ne_eq, Decidable.not_not] at missing
        split
        · rename_i fits
          exact .rebuilt parameters counted missing fits
        · rename_i overflow
          exact .immense parameters counted missing (Nat.not_lt.mp overflow)

/-- What a probe finds out. -/
structure Findings where
  bootSector : Bytes
  version : Option UInt8
  parameters : Option DriveParameters
  legacy : Option DriveShape
  shape : Option TrackShape

namespace Findings

def override? (findings : Findings) : Option FbOverride :=
  FbOverride.ofSector? findings.bootSector

/-- Whether a drive is read by linear number. -/
def Linear (findings : Findings) (drive : DriveNumber) : Prop :=
  0x80 ≤ drive.toNat ∧ findings.version.isSome ∧ findings.parameters.isSome ∧
    ∀ fbOverride, findings.override? = some fbOverride → fbOverride.cap.toNat < 0x80

/-- The longest transfer by address. -/
def cap (findings : Findings) : Nat :=
  match findings.override? with
  | none => 63
  | some fbOverride => max 1 (fbOverride.cap.toNat % 0x80)

/-- What a drive is taken for before any override is followed. -/
def baseline (findings : Findings) (drive : DriveNumber) : Baseline :=
  if drive.isFixed then {
    extended := findings.parameters.isSome
    reported := (findings.parameters.map reportedSize).getD 0
    cylinders := (findings.legacy.map DriveShape.cylinders).getD 0
    heads := countOr ((findings.legacy.map DriveShape.heads).getD 0) mostHeads 255
    sectors := countOr ((findings.legacy.map DriveShape.sectors).getD 0) mostSectors 63 }
  else floppyBaseline findings.bootSector

def record (findings : Findings) (drive : DriveNumber) (linear followed : Bool) : Geometry :=
  ofBaseline drive { reshaped (findings.baseline drive) findings.shape with extended := linear }
    findings.cap followed

/-- What a probe settles on, given its findings. -/
structure Settles (findings : Findings) (drive : DriveNumber) (record : Geometry) : Prop where
  number : record.drive = drive
  plain : record.optical = false
  linear : record.mode = .lba ↔ findings.Linear drive
  followed : record.fbOverride = true ↔
    findings.override?.isSome ∧ (record.mode = .lba ∨ findings.shape.isSome)
  chsCap : record.chsCap = findings.cap
  cap : record.cap = if record.mode = .lba ∧ findings.cap = 63 then 127 else findings.cap
  cylinders : record.cylinders = (findings.baseline drive).cylinders
  heads : record.heads = (findings.shape.map TrackShape.heads).getD (findings.baseline drive).heads
  sectors : record.sectors =
    (findings.shape.map TrackShape.sectors).getD (findings.baseline drive).sectors
  size : ∃ reported, Reports findings.parameters reported ∧
    record.totalSectors = max (record.cylinders * record.heads * record.sectors) reported

variable {σ : Type} [Firmware σ]

/-- How a shape is looked for: only where an override is carried and the drive is not read by linear
number. -/
inductive Refined (findings : Findings) (drive : DriveNumber) (channel : Channel σ) :
    Channel σ → Prop where
  | skipped (needless : findings.override? = none ∨ findings.Linear drive)
      (shapeless : findings.shape = none) : Refined findings drive channel channel
  | tried (fbOverride : FbOverride) (after : Channel σ)
      (carried : findings.override? = some fbOverride) (limited : ¬ findings.Linear drive)
      (run : (trackShape? drive fbOverride.lba.toNat : Action (Channel σ) DiskError _) channel =
        (.ok findings.shape, after)) : Refined findings drive channel after

/-- The findings are what the firmware answered, call by call. -/
def Gathered (findings : Findings) (drive : DriveNumber) (channel after : Channel σ) : Prop :=
  ∃ booted based, Sampled drive firstSector channel (some findings.bootSector) booted ∧
    Told drive booted findings.version findings.parameters findings.legacy based ∧
    findings.Refined drive based after

end Findings

section Answered

variable {σ : Type} [Firmware σ] {drive : DriveNumber} {channel : Channel σ} {ε : Type}

theorem extendedParameters?_told (drive : DriveNumber) (channel : Channel σ) :
    Action.Ends (extendedParameters? (ε := ε) drive) channel
      (fun parameters after => ∃ version, Extended drive channel version parameters after)
      (fun _ _ => False) (fun _ _ => True) := by
  unfold Action.Ends extendedParameters?
  rcases asked : Firmware.extensionsVersion drive channel.firmware with ⟨_ | version, firmware⟩
  · exact ⟨none, .missing firmware asked⟩
  · dsimp only
    rw [← parameterBlock]
    rcases run : Firmware.extendedParameters drive { buffer := parameterBlock, state := firmware }
      with ⟨_ | status | reason, given⟩
    · exact ⟨some version, .told version firmware given asked run⟩
    · exact ⟨some version, .refused version firmware status given asked run⟩
    · exact trivial

theorem legacyParameters_told (drive : DriveNumber) (channel : Channel σ) :
    Action.Ends (Channel.ask (Firmware.legacyParameters drive)) channel
      (fun shape after => Legacy drive channel (some shape) after)
      (fun _ after => Legacy drive channel none after) (fun _ _ => True) := by
  rw [Channel.ask, Action.ends_onPart]
  exact .intro (fun shape firmware run => .told shape firmware run)
    (fun status firmware run => .refused status firmware run) (fun _ _ _ => trivial)

theorem baselineOf_told (drive : DriveNumber) (bootSector : Bytes) (channel : Channel σ) :
    Action.Ends (baselineOf (ε := ε) drive bootSector) channel
      (fun baseline after => ∃ version parameters legacy,
        Told drive channel version parameters legacy after ∧
          ∀ shape, baseline =
            Findings.baseline { bootSector, version, parameters, legacy, shape } drive)
      (fun _ _ => False) (fun _ _ => True) := by
  unfold baselineOf
  by_cases high : drive.isFixed = true
  · rw [if_pos high, fixedBaseline]
    refine (extendedParameters?_told drive channel).bind ?_
    intro parameters middle extended
    obtain ⟨version, extended⟩ := extended
    apply Action.ends_caught_bind
    refine (legacyParameters_told drive middle).mono ?_ ?_
    · intro shape after legacy
      refine ⟨version, parameters, some shape, .fixed high extended legacy, fun _ => ?_⟩
      rw [Findings.baseline, if_pos high]
      rfl
    · intro _ after legacy
      refine ⟨version, parameters, none, .fixed high extended legacy, fun _ => ?_⟩
      rw [Findings.baseline, if_pos high]
      rfl
  · rw [if_neg high]
    refine ⟨none, none, none, .floppy (Bool.not_eq_true _ ▸ high), fun _ => ?_⟩
    rw [Findings.baseline, if_neg high]

end Answered

section Settled

variable {σ : Type} [Firmware σ] {drive : DriveNumber} {channel after : Channel σ}
  {findings : Findings} {fbOverride : FbOverride} {linear followed : Bool}

theorem isFixed_iff : drive.isFixed = true ↔ 0x80 ≤ drive.toNat :=
  decide_eq_true_iff

variable (told : Told drive channel findings.version findings.parameters findings.legacy after)
include told

theorem Told.reports :
    Reports findings.parameters (findings.baseline drive).reported := by
  obtain ⟨bootSector, version, parameters, legacy, shape⟩ := findings
  unfold Findings.baseline
  cases told with
  | floppy low =>
    rw [low]
    exact .silent
  | fixed high =>
    rw [if_pos high]
    exact reports_reportedSize parameters

/-- The parameters are those of the extended services of a fixed disk. -/
theorem Told.linear_iff :
    findings.Linear drive ↔ (findings.baseline drive).extended = true ∧
      ∀ fbOverride, findings.override? = some fbOverride → fbOverride.cap.toNat < 0x80 := by
  obtain ⟨bootSector, version, parameters, legacy, shape⟩ := findings
  unfold Findings.Linear Findings.baseline
  cases told with
  | floppy low =>
    rw [low]
    simp only [Option.isSome_none, Bool.false_eq_true, false_and, and_false, ↓reduceIte,
      floppyBaseline]
  | fixed high extended =>
    rw [if_pos high]
    have fixed := isFixed_iff.mp high
    cases extended with
    | missing =>
      simp only [Option.isSome_none, Bool.false_eq_true, false_and, and_false]
    | refused =>
      simp only [Option.isSome_none, Bool.false_eq_true, false_and, and_false]
    | told =>
      simp only [fixed, Option.isSome_some, true_and]

/-- A record in the right mode and with the right flag is the one to settle on. -/
theorem Told.settles
    (mode : linear = true ↔ findings.Linear drive)
    (flag : followed = true ↔
      findings.override?.isSome ∧ (linear = true ∨ findings.shape.isSome)) :
    findings.Settles drive (findings.record drive linear followed) := by
  have lba : (findings.record drive linear followed).mode = .lba ↔ linear = true := by
    cases linear <;> simp [Findings.record, ofBaseline]
  exact {
    number := rfl
    plain := rfl
    linear := lba.trans mode
    followed := by
      rw [lba]
      exact flag
    chsCap := rfl
    cap := by
      simp only [lba]
      rfl
    cylinders := rfl
    heads := rfl
    sectors := rfl
    size := ⟨_, told.reports, Nat.max_comm _ _⟩ }

theorem Told.settles_plain
    (plain : findings.override? = none) (shapeless : findings.shape = none) :
    findings.Settles drive (ofBaseline drive (findings.baseline drive) usualCap false) := by
  have mode : (findings.baseline drive).extended = true ↔ findings.Linear drive := by
    rw [told.linear_iff, plain]
    exact ⟨fun extended => ⟨extended, nofun⟩, And.left⟩
  have flag : false = true ↔ findings.override?.isSome ∧
      ((findings.baseline drive).extended = true ∨ findings.shape.isSome) := by
    rw [plain]
    exact ⟨nofun, fun never => never.1⟩
  have settled := told.settles mode flag
  simp only [Findings.record, Findings.cap, plain, shapeless] at settled
  exact settled

/-- An override that leaves the drive its linear mode is followed as it is. -/
theorem Told.settles_linear
    (carried : findings.override? = some fbOverride) (linear : findings.Linear drive)
    (shapeless : findings.shape = none) :
    findings.Settles drive
      (ofBaseline drive (findings.baseline drive) fbOverride.transferCap true) := by
  have extended := (told.linear_iff.mp linear).1
  have mode : (findings.baseline drive).extended = true ↔ findings.Linear drive :=
    ⟨fun _ => linear, fun _ => extended⟩
  have flag : true = true ↔ findings.override?.isSome ∧
      ((findings.baseline drive).extended = true ∨ findings.shape.isSome) := by
    rw [carried]
    exact ⟨fun _ => ⟨rfl, Or.inl extended⟩, fun _ => rfl⟩
  have settled := told.settles mode flag
  simp only [Findings.record, Findings.cap, carried, shapeless] at settled
  exact settled

theorem Told.settles_limited
    (carried : findings.override? = some fbOverride) (limited : ¬ findings.Linear drive) :
    findings.Settles drive (ofBaseline drive (reshaped (findings.baseline drive) findings.shape)
      fbOverride.transferCap findings.shape.isSome) := by
  have mode : false = true ↔ findings.Linear drive := ⟨nofun, fun linear => (limited linear).elim⟩
  have flag : findings.shape.isSome = true ↔
      findings.override?.isSome ∧ (false = true ∨ findings.shape.isSome) := by
    rw [carried]
    exact ⟨fun shaped => ⟨rfl, Or.inr shaped⟩, fun shaped => shaped.2.resolve_left nofun⟩
  have settled := told.settles mode flag
  simp only [Findings.record, Findings.cap, carried] at settled
  exact settled

/-- Whether an override leaves the drive its linear mode is seen from the baseline. -/
theorem Told.allowed_iff
    (carried : findings.override? = some fbOverride) :
    ((findings.baseline drive).extended ∧ !fbOverride.chsOnly) ↔ findings.Linear drive := by
  have bit : (!fbOverride.chsOnly) = true ↔ fbOverride.cap.toNat < 0x80 := by
    rw [Bool.not_eq_true', FbOverride.chsOnly, decide_eq_false_iff_not]
    exact Nat.not_le
  rw [told.linear_iff, carried, bit]
  simp only [Option.some.injEq, forall_eq']

end Settled

section Probe

variable {σ : Type} [Firmware σ] {drive : DriveNumber} {opticalDrive : Option DriveNumber}
  {channel : Channel σ} {ε : Type}

/-- Once the baseline is known, a probe settles on a record, whatever the override says. -/
theorem Told.follow_ends {findings : Findings} {booted based : Channel σ}
    (told : Told drive booted findings.version findings.parameters findings.legacy based)
    (shapeless : findings.shape = none)
    (read : Sampled drive firstSector channel (some findings.bootSector) booted) :
    Action.Ends
      (match findings.override? with
        | none => pure (ofBaseline drive (findings.baseline drive) usualCap false)
        | some fbOverride => followOverride drive (findings.baseline drive) fbOverride :
          Action (Channel σ) DiskError Geometry)
      based
      (fun record after => ∃ findings : Findings,
        findings.Gathered drive channel after ∧ findings.Settles drive record)
      (fun _ _ => False) (fun _ _ => True) := by
  cases carried : findings.override? with
  | none =>
    exact ⟨findings, ⟨booted, based, read, told, .skipped (Or.inl carried) shapeless⟩,
      told.settles_plain carried shapeless⟩
  | some fbOverride =>
    dsimp only
    unfold followOverride
    split
    · rename_i direct
      have linear := (told.allowed_iff carried).mp direct
      exact ⟨findings, ⟨booted, based, read, told, .skipped (Or.inr linear) shapeless⟩,
        told.settles_linear carried linear shapeless⟩
    -- The override rules out the linear mode, so it counts only with a shape.
    · rename_i limited
      rw [told.allowed_iff carried] at limited
      have found : Action.Ends (trackShape? drive fbOverride.lba.toNat) based
          (fun shape after => trackShape? (ε := DiskError) drive fbOverride.lba.toNat based =
            (.ok shape, after))
          (fun _ _ => False) (fun _ _ => True) :=
        .intro (fun _ _ run => run)
          (fun _ _ run => (trackShape?_interrupted drive _ based).of_error run)
          (fun _ _ _ => trivial)
      refine found.bind ?_
      intro shape after run
      have gathered : Findings.Gathered { findings with shape } drive channel after :=
        ⟨booted, based, read, told, .tried fbOverride after carried limited run⟩
      have settled : Findings.Settles { findings with shape } drive _ :=
        Told.settles_limited told carried limited
      cases shape with
      | none => exact ⟨_, gathered, settled⟩
      | some shape => exact ⟨_, gathered, settled⟩

/-- A probe of any but the optical drive comes to a record, unless the boot sector cannot be read or
the firmware faults. -/
theorem probe_settles (other : opticalDrive ≠ some drive) (channel : Channel σ) :
    Action.Ends (probe drive opticalDrive) channel
      (fun record after => ∃ findings : Findings,
        findings.Gathered drive channel after ∧ findings.Settles drive record)
      (fun cause after => cause = .unreachable drive.name ∧
        Sampled drive firstSector channel none after)
      (fun _ _ => True) := by
  rw [probe_eq_bind other]
  have boot : Action.Ends (readSector? (ε := DiskError) drive firstSector) channel
      (Sampled drive firstSector channel) (fun _ _ => False) (fun _ _ => True) :=
    readSector?_sampled fun _ _ => trivial
  refine boot.unrefused.bind ?_
  intro found booted read
  cases found with
  | none => exact ⟨rfl, read⟩
  | some bootSector =>
    refine (baselineOf_told drive bootSector booted).unrefused.bind ?_
    intro baseline based answers
    obtain ⟨version, parameters, legacy, told, same⟩ := answers
    let findings : Findings := { bootSector, version, parameters, legacy, shape := none }
    have told : Told drive booted findings.version findings.parameters findings.legacy based := told
    rw [same none]
    exact (told.follow_ends rfl read).unrefused

/-- What a probe of any but the optical drive comes to, over any firmware. Watching it changes
nothing. It asks questions and reads three sectors at most, each once. It is refused exactly where
the boot sector cannot be read, and then says that the drive cannot be reached. Otherwise it settles
on a record that its findings determine, unless the firmware itself faults. -/
theorem probe_decides (drive : DriveNumber) (opticalDrive : Option DriveNumber)
    (other : opticalDrive ≠ some drive) (channel : Channel σ) :
    let watched := probe drive opticalDrive channel.watched
    probe drive opticalDrive channel = (watched.1, watched.2.map Watched.firmware) ∧
    (watched.2.transcript.map Exchange.request).Sublist (questions drive) ∧
    Action.Ends (probe drive opticalDrive) channel
      (fun record after => ∃ findings : Findings,
        findings.Gathered drive channel after ∧ findings.Settles drive record)
      (fun cause after => cause = .unreachable drive.name ∧
        Sampled drive firstSector channel none after)
      (fun reason _ => ∃ exchange ∈ watched.2.transcript, exchange.answer = .fault reason) ∧
    ∀ after, Sampled drive firstSector channel none after →
      probe drive opticalDrive channel = (.error (.unreachable drive.name), after) := by
  intro watched
  have same : probe drive opticalDrive channel = (watched.1, watched.2.map Watched.firmware) :=
    simulates_probe Watched.simulation drive opticalDrive channel.watched
  have settles := probe_settles other channel
  have asks := asks_probe (σ := σ) drive opticalDrive
  refine ⟨same, ?_, ?_, ?_⟩
  · obtain ⟨asked, transcript, few⟩ := asks.asked channel.watched
    rw [transcript]
    exact few
  · refine .intro (fun _ _ run => settles.of_ok run) (fun _ _ run => settles.of_error run) ?_
    intro reason after run
    rw [same, Prod.mk.injEq] at run
    exact ((asks channel.watched).of_fault (Prod.ext run.1 rfl)).2
  · intro after refused
    rw [probe_eq_bind other, Action.bind_of_ok (readSector?_eq_ok.mpr refused)]
    rfl

/-- The drive whose marks are 32 and 128 is taken for four heads of 32 sectors. -/
theorem probe_decides_marked :
    ((probe 0x80 none (markedStart 128).watched).2.transcript.map Exchange.request).Sublist
        (questions 0x80) ∧
      ∃ findings after, Findings.Gathered findings 0x80 (markedStart 128) after ∧
        findings.Settles 0x80 {
          drive := 0x80, mode := .chs, optical := false, fbOverride := true, sectors := 32
          heads := 4, cylinders := 2, cap := 63, chsCap := 63, totalSectors := 256 } := by
  have decided (channel : Channel Machine) (record : Geometry)
      (settled : (probe 0x80 none channel).1 = .ok record) :
      ((probe 0x80 none channel.watched).2.transcript.map Exchange.request).Sublist
          (questions 0x80) ∧
        ∃ findings after, Findings.Gathered findings 0x80 channel after ∧
          findings.Settles 0x80 record := by
    obtain ⟨-, few, ends, -⟩ := probe_decides 0x80 none nofun channel
    obtain ⟨findings, gathered, settles⟩ := ends.of_ok (Action.run_of_ok settled)
    exact ⟨few, findings, _, gathered, settles⟩
  exact decided (markedStart 128) _ (by decide +kernel)

end Probe

end FirmwareDisk.Geometry
