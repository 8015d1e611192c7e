import FirmwareDisk.Proofs.Machine.Dependable
import FirmwareDisk.Proofs.Survey.Assembly
import FirmwareDisk.Proofs.Survey.Examination

set_option autoImplicit false

namespace FirmwareDisk.Survey

variable {files : Files} {options : Options}

/-- Whatever its medium, a drive of a survey reports few sectors. -/
theorem Options.drive_countable (options : Options) (kind : DriveKind) (medium : Medium) :
    (options.drive kind medium).legacy.cylinders * (options.drive kind medium).legacy.heads *
      (options.drive kind medium).legacy.sectors < UInt64.size := by
  cases kind with
  | fixed =>
    have cylinders : (options.drive .fixed medium).legacy.cylinders ≤ 1024 := Nat.min_le_right _ _
    have heads : (options.drive .fixed medium).legacy.heads = 255 := rfl
    have sectors : (options.drive .fixed medium).legacy.sectors = 63 := rfl
    rw [heads, sectors]
    have limit : UInt64.size = 0x10000000000000000 := rfl
    omega
  | floppy => exact (by decide : 80 * 2 * 18 < UInt64.size)
  | optical => exact (by decide : 0 * 0 * 0 < UInt64.size)

theorem place_countable {placements : List Placement} {machine after : Machine}
    (countable : machine.Countable) (run : place files options machine placements = .ok after) :
    after.Countable := by
  induction placements generalizing machine with
  | nil =>
    cases run
    exact countable
  | cons placement rest ih =>
    rw [place_cons, Outcome.bind_eq_ok] at run
    obtain ⟨next, attaching, run⟩ := run
    obtain ⟨-, file, -, rfl⟩ := attachImage_eq_ok.mp attaching
    exact ih (countable.attach (options.drive_countable _ _)) run

theorem openSession_held {session : Session Machine}
    (opened : openSession files options = .ok session) : session.Held Machine.Countable where
  sound := by
    rw [openSession, Outcome.bind_eq_ok] at opened
    obtain ⟨machine, -, starting⟩ := opened
    exact Session.start_sound (Outcome.mapError_eq_ok.mp starting)
  firmware := by
    obtain ⟨machine, attached, same⟩ := openSession_drives opened
    rw [attachAll_eq_place] at attached
    have countable := place_countable Machine.Countable.none_attached attached
    intro number drive there
    rw [same] at there
    exact countable number drive there

/-- Something is wrong with a report on devices that are all available only if there are none. -/
theorem problem?_of_available {entries : List DeviceEntry}
    (available : ∀ entry ∈ entries, entry.geometry.isSome) :
    Report.problem? { devices := entries } =
      if entries.map DeviceEntry.name = [] then some .nothingOpened else none := by
  cases entries with
  | nil => rfl
  | cons entry rest =>
    have first := available entry List.mem_cons_self
    simp [Report.problem?, first]

/-- What a survey comes to once it has a session, with any images and options. The enumeration is
whole. The devices under its names are examined in its order, and each of them is opened by the
record that the enumeration left, whatever has been read from the devices before it; so each is
reported with a geometry and none as unavailable. The survey ends with nothing opened exactly if
there are no names. -/
theorem devices_available {session : Session Machine} (checked : checkCounts options = .ok ())
    (opened : openSession files options = .ok session) :
    ∃ reached middle entries last,
      Session.Enumerated session reached none middle ∧
      let names := (Session.offered session.settings.bootDrive reached).map Prod.fst
      (diskNames : Action (Session Machine) Problem (List String)) session = (.ok names, middle) ∧
      Examinations names middle entries last ∧
      (examineAll names : Action (Session Machine) Problem (List DeviceEntry)) middle =
        (.ok entries, last) ∧
      entries.map DeviceEntry.name = names ∧
      (∀ entry ∈ entries, entry.geometry.isSome ∧
        ∃ facts record, entry.facts = some facts ∧ facts.geometry = some record ∧
          (Report.deviceLines entry).head? = some (Report.deviceLine entry.name facts record)) ∧
      run files options = .ok {
        output := Report.render { devices := entries } options.json
        problem := if names = [] then some .nothingOpened else none } := by
  obtain ⟨reached, fault, middle, enumerated⟩ := Session.Enumerated.exists session
  obtain ⟨rfl, entries, last, examinations, report⟩ :=
    reportOn_of_enumerated Machine.dependable (openSession_held opened) enumerated
  refine ⟨reached, middle, entries, last, enumerated, diskNames_of_enumerated enumerated,
    examinations, examinations.run, examinations.map_name,
    fun entry listed => ⟨examinations.available entry listed,
      deviceLines_of_available (examinations.available entry listed)⟩, ?_⟩
  have conducted : conduct files options = .ok { devices := entries } := by
    rw [conduct, checked, opened]
    exact congrArg Prod.fst report
  rw [run, conducted, ← examinations.map_name]
  dsimp only
  rw [problem?_of_available examinations.available]

/-- The hard disk, which the machine starts from, and the floppy disk are listed and reported. -/
theorem devices_available_mixed :
    ∃ session entries, checkCounts mixedOptions = .ok () ∧
      openSession blankFiles mixedOptions = .ok session ∧
      entries.map DeviceEntry.name = ["hd0", "boot", "fd0"] ∧
      (∀ entry ∈ entries, entry.geometry.isSome) ∧
      run blankFiles mixedOptions =
        .ok { output := Report.render { devices := entries } false, problem := none } := by
  have listed : (openSession blankFiles mixedOptions >>= fun session =>
      ((diskNames : Action (Session Machine) Problem _) session).1) =
        .ok ["hd0", "boot", "fd0"] := by decide +kernel
  obtain ⟨session, opened, names⟩ := Outcome.bind_eq_ok.mp listed
  obtain ⟨reached, middle, entries, last, -, enumerated, -, -, named, available, concluded⟩ :=
    @devices_available blankFiles mixedOptions session rfl opened
  rw [enumerated] at names
  have same := Outcome.ok.inj names
  rw [same] at named concluded
  exact ⟨session, entries, rfl, opened, named, fun entry member => (available entry member).1,
    concluded⟩

/-- A disk that cannot even move one sector is not listed, and then nothing is opened. -/
example :
    let files (path : String) : Except String ImageFile := .ok (.zeros path 512)
    (run files { images := ["disk"], maxTransfer := some 0 }).map Conclusion.problem =
      .ok (some .nothingOpened) := by decide +kernel

end FirmwareDisk.Survey
