import FirmwareDisk.Proofs.Machine.Queries
import FirmwareDisk.Proofs.Survey.Placement
import FirmwareDisk.Survey.Conduct

set_option autoImplicit false

namespace FirmwareDisk

namespace Session

variable {settings : Settings} {machine : Machine}

theorem start_of_checked (checked : settings.check = .ok ()) (machine : Machine) :
    ∃ session, start settings machine = .ok session ∧
      ∀ number, session.channel.firmware.drive? number = machine.drive? number := by
  unfold start opticalDrive?
  rw [checked]
  obtain ⟨_, after, run, same⟩ | ⟨_, after, run, same⟩ | ⟨_, _, _, impossible⟩ :=
    (@Machine.opticalStatus_ends settings.bootDrive
      { buffer := OpticalPacket.request, state := machine }).cases
  · simp only [run]
    exact ⟨_, rfl, same⟩
  · simp only [run]
    exact ⟨_, rfl, same⟩
  · exact impossible.elim

theorem drive?_of_start {session : Session Machine}
    (started : start settings machine = .ok session) (number : DriveNumber) :
    session.channel.firmware.drive? number = machine.drive? number := by
  cases checked : settings.check with
  | error cause =>
    unfold start at started
    rw [checked] at started
    cases started
  | ok =>
    obtain ⟨other, same, drives⟩ := start_of_checked checked machine
    rw [started] at same
    cases same
    exact drives number

end Session

namespace Survey

section Attaching

variable {files : Files} {options : Options} {machine : Machine}
  {placement : Placement}

@[simp] theorem Options.drive_kind (options : Options) (kind : DriveKind) (medium : Medium) :
    (options.drive kind medium).kind = kind := by
  cases kind <;> rfl

/-- The optical disc is put in last, so it stays. -/
theorem optical_attached (run : attachAll files options = .ok machine) {path : String}
    (given : options.optical = some path) :
    Placement.Attached files options machine ⟨0xe0, .optical, path⟩ := by
  have last : options.placements = (placed .fixed 0x80 options.images ++
      placed .floppy 0 options.floppies) ++ [⟨0xe0, .optical, path⟩] := by
    rw [Options.placements, given, List.append_assoc]
    rfl
  rw [attachAll_eq_place, last] at run
  apply place_attached run
  intro later listed
  cases listed

/-- Every image is in its drive, but for a hard disk that gave way to the optical disc. -/
theorem attached_iff (few : options.floppies.length ≤ 0x80)
    (run : attachAll files options = .ok machine) (member : placement ∈ options.placements) :
    placement.Attached files options machine ↔ ¬ placement.Taken options := by
  constructor
  · rintro ⟨file, -, attached⟩ ⟨fixed, number, given⟩
    obtain ⟨path, given⟩ := Option.isSome_iff_exists.mp given
    -- Under the number that both have there is the optical disc, and a drive is of one kind.
    obtain ⟨disc, -, there⟩ := optical_attached run given
    rw [number] at attached
    have same := congrArg Drive.kind (Option.some.inj (attached.symm.trans there))
    rw [Options.drive_kind, Options.drive_kind, fixed] at same
    cases same
  · intro free
    obtain ⟨front, back, split⟩ := List.append_of_mem member
    have clash := placements_clash few
    rw [attachAll_eq_place, split] at run
    rw [split] at clash
    apply place_attached run
    intro later inBack same
    obtain ⟨-, clash, -⟩ := List.pairwise_append.mp clash
    exact free ((List.pairwise_cons.mp clash).1 later inBack same.symm).1

/-- How attaching the images may end. -/
theorem attachAll_ends (few : options.floppies.length ≤ 0x80) :
    match attachAll files options with
    | .ok _ => options.Present files ∧ options.images.length ≤ 0x80
    | .error _ => ¬ options.Present files
    | .fault reason => reason = .overflow ∧ 0x80 < options.images.length := by
  have ends := @place_ends files options options.placements {}
  rw [← attachAll_eq_place] at ends
  have fit := numbers_fit_iff few
  cases run : attachAll files options with
  | ok machine =>
    rw [run] at ends
    exact ⟨fun placement member => (ends placement member).2,
      fit.mp fun placement member => (ends placement member).1⟩
  | error cause =>
    rw [run] at ends
    obtain ⟨missing, member, _, unopened, -⟩ := ends
    intro present
    obtain ⟨_, found⟩ := present missing member
    cases unopened.symm.trans found
  | fault reason =>
    rw [run] at ends
    obtain ⟨overflow, large, member, beyond⟩ := ends
    refine ⟨overflow, Nat.lt_of_not_le ?_⟩
    intro fewDisks
    exact absurd (fit.mpr fewDisks large member) (Nat.not_lt.mpr beyond)

/-- Attaching the images succeeds exactly if all are there and have an 8-bit number. -/
theorem attachAll_ok_iff (few : options.floppies.length ≤ 0x80) :
    (∃ machine, attachAll files options = .ok machine) ↔
      options.Present files ∧ options.images.length ≤ 0x80 := by
  have ends := @attachAll_ends files options few
  constructor
  · rintro ⟨machine, run⟩
    rw [run] at ends
    exact ends
  · rintro ⟨present, fewDisks⟩
    split at ends
    · rename_i machine run
      exact ⟨machine, run⟩
    · exact absurd present ends
    · exact absurd fewDisks (Nat.not_le.mpr ends.2)

theorem attachAll_eq_fault (few : options.floppies.length ≤ 0x80) {reason : Fault}
    (run : attachAll files options = .fault reason) :
    reason = .overflow ∧ 0x80 < options.images.length := by
  have ends := @attachAll_ends files options few
  rw [run] at ends
  exact ends

/-- Where all images are there and one has no number, attaching them faults. -/
theorem attachAll_overflows (few : options.floppies.length ≤ 0x80)
    (present : options.Present files) (many : 0x80 < options.images.length) :
    attachAll files options = .fault .overflow := by
  have ends := @attachAll_ends files options few
  split at ends
  · exact absurd many (Nat.not_lt.mpr ends.2)
  · exact absurd present ends
  · rename_i reason run
    rw [run, ends.1]

theorem openSession_drives {session : Session Machine}
    (opened : openSession files options = .ok session) :
    ∃ machine, attachAll files options = .ok machine ∧
      ∀ number, session.channel.firmware.drive? number = machine.drive? number := by
  rw [openSession, Outcome.bind_eq_ok] at opened
  obtain ⟨assembled, assembling, starting⟩ := opened
  rw [assemble, Outcome.bind_eq_ok] at assembling
  obtain ⟨machine, attached, booting⟩ := assembling
  rw [Outcome.bind_eq_ok] at booting
  obtain ⟨bootDrive, -, same⟩ := booting
  cases same
  have drives := Session.drive?_of_start (Outcome.mapError_eq_ok.mp starting)
  exact ⟨machine, attached, drives⟩

/-- A machine with all images starts unless it is told from where, if the numbers that are looked at
are in range. -/
theorem openSession_of_default (run : attachAll files options = .ok machine)
    (unnamed : options.boot = none) (looked : 0 < options.diskCount)
    (most : options.diskCount ≤ 0x80) : ∃ session, openSession files options = .ok session := by
  have boot : ∃ bootDrive, bootDriveOf options machine = .ok bootDrive := by
    unfold bootDriveOf
    rw [unnamed]
    dsimp only
    split
    · exact ⟨_, rfl⟩
    · split
      · exact ⟨_, rfl⟩
      · exact ⟨_, rfl⟩
  obtain ⟨bootDrive, boot⟩ := boot
  have checked :
      ({ bootDrive, fixedDiskCount := options.diskCount } : Settings).check = .ok () := by
    have inRange : ¬ (options.diskCount = 0 ∨ 0x80 < options.diskCount) := by omega
    simp [Settings.check, Settings.flaw?, inRange]
  obtain ⟨session, started, -⟩ := Session.start_of_checked checked { machine with bootDrive }
  refine ⟨session, ?_⟩
  rw [openSession, assemble, run, Outcome.ok_bind, boot]
  exact Outcome.mapError_eq_ok.mpr started

end Attaching

/-- The images that a survey looks at. With more than 128 hard disks a drive number leaves its 8
bits. Otherwise every image is in a drive of its kind under its number when the drives are looked
at, but for the 97th hard disk, which an optical disc takes the number of. -/
theorem images_attached_iff (files : Files) (options : Options)
    (checked : checkCounts options = .ok ()) :
    ((∃ machine, attachAll files options = .ok machine) ↔
      options.Present files ∧ options.images.length ≤ 0x80) ∧
    (∀ reason, attachAll files options = .fault reason →
      reason = .overflow ∧ 0x80 < options.images.length) ∧
    (options.Present files → 0x80 < options.images.length →
      conduct files options = .fault .overflow) ∧
    ((options.placements.map Placement.number).Nodup ↔
      options.optical = none ∨ options.images.length ≤ 0x60) ∧
    (∀ machine, (attachAll files options = .ok machine ∨
        ∃ session, openSession files options = .ok session ∧ session.channel.firmware = machine) →
      (∀ placement ∈ options.placements,
        (placement.Attached files options machine ↔ ¬ placement.Taken options)) ∧
      ((∀ placement ∈ options.placements, placement.Attached files options machine) ↔
        options.optical = none ∨ options.images.length ≤ 0x60)) ∧
    (options.Present files → options.boot = none → 0 < options.diskCount →
      options.diskCount ≤ 0x80 → ∃ session, openSession files options = .ok session) := by
  obtain ⟨enough, few⟩ := checkCounts_eq_ok checked
  have ok := @attachAll_ok_iff files options few
  refine ⟨ok, fun _ => attachAll_eq_fault few, ?_, ?_, ?_, ?_⟩
  · intro present many
    rw [conduct, checked, openSession, assemble, attachAll_overflows few present many]
    rfl
  · rw [numbers_nodup_iff few, none_taken_iff]
  · intro machine origin
    have source : ∃ built, attachAll files options = .ok built ∧
        ∀ number, machine.drive? number = built.drive? number := by
      obtain attached | ⟨session, opened, rfl⟩ := origin
      · exact ⟨machine, attached, fun _ => rfl⟩
      · exact openSession_drives opened
    obtain ⟨built, attached, same⟩ := source
    have each (placement : Placement) (member : placement ∈ options.placements) :
        placement.Attached files options machine ↔ ¬ placement.Taken options := by
      rw [← attached_iff few attached member]
      simp only [Placement.Attached, same]
    refine ⟨each, ?_⟩
    rw [← none_taken_iff]
    exact forall₂_congr each
  · intro present unnamed looked most
    obtain ⟨machine, attached⟩ := ok.mpr ⟨present, Nat.le_trans enough most⟩
    exact openSession_of_default attached unnamed looked most

def blankFiles (path : String) : Except String ImageFile :=
  .ok (.zeros path 512)

/-- A disk of each kind. -/
def mixedOptions : Options where
  images := ["disk"]
  floppies := ["floppy"]
  optical := some "disc"

theorem images_attached_iff_mixed :
    checkCounts mixedOptions = .ok () ∧
      ∃ session, openSession blankFiles mixedOptions = .ok session ∧
        ∀ placement ∈ mixedOptions.placements,
          placement.Attached blankFiles mixedOptions session.channel.firmware := by
  obtain ⟨-, -, -, -, holds, opens⟩ := images_attached_iff blankFiles mixedOptions rfl
  obtain ⟨session, opened⟩ := opens (fun _ _ => ⟨_, rfl⟩) rfl (by decide) (by decide)
  refine ⟨rfl, session, opened, ?_⟩
  exact (holds session.channel.firmware (.inr ⟨session, opened, rfl⟩)).2.mpr (.inr (by decide))

/-- As many hard disks as are needed for one of them to have the number of the optical disc. -/
def crowdedOptions : Options where
  images := List.replicate 97 "disk"
  optical := some "disc"
  fixedDiskCount := some 97

/-- The 97th of these hard disks. -/
def crowdedDisk : Placement where
  number := 0x80 + 96
  kind := .fixed
  path := "disk"

/-- Nothing is wrong with these options, and the 97th hard disk is lost all the same. -/
theorem optical_displaces_disk :
    checkCounts crowdedOptions = .ok () ∧ crowdedDisk ∈ crowdedOptions.placements ∧
      ∃ session, openSession blankFiles crowdedOptions = .ok session ∧
        ¬ crowdedDisk.Attached blankFiles crowdedOptions session.channel.firmware := by
  have few : crowdedOptions.floppies.length ≤ 0x80 := by decide
  have member : crowdedDisk ∈ crowdedOptions.placements := @disk_mem crowdedOptions 96 (by decide)
  obtain ⟨machine, attached⟩ := (@attachAll_ok_iff blankFiles crowdedOptions few).mpr
    ⟨fun _ _ => ⟨_, rfl⟩, by decide⟩
  obtain ⟨session, opened⟩ := openSession_of_default attached rfl (by decide) (by decide)
  obtain ⟨built, attached, same⟩ := openSession_drives opened
  refine ⟨rfl, member, session, opened, ?_⟩
  simp only [Placement.Attached, same]
  intro there
  exact (attached_iff few attached member).mp there ⟨rfl, rfl, rfl⟩

end Survey

end FirmwareDisk
