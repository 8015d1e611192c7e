import FirmwareDisk.Proofs.Machine.Transfers
import FirmwareDisk.Survey.Assembly

set_option autoImplicit false

namespace FirmwareDisk.Survey

/-- An image with the kind of its drive and the number that it is to have. -/
structure Placement where
  number : Nat
  kind : DriveKind
  path : String
deriving DecidableEq, Repr

/-- Images of one kind under consecutive numbers. -/
def placed (kind : DriveKind) (first : Nat) (paths : List String) : List Placement :=
  paths.mapIdx fun index path => { number := first + index, kind, path }

/-- Every image of a command line: hard disks from 0x80 on, floppy disks from 0 on, and the optical
disc under 0xe0. -/
def Options.placements (options : Options) : List Placement :=
  placed .fixed 0x80 options.images ++
    (placed .floppy 0 options.floppies ++ placed .optical 0xe0 options.optical.toList)

def Options.Present (files : Files) (options : Options) : Prop :=
  ∀ placement ∈ options.placements, ∃ file, files placement.path = .ok file

/-- The image is in the drive under its number. -/
def Placement.Attached (files : Files) (options : Options) (machine : Machine)
    (placement : Placement) : Prop :=
  ∃ file, files placement.path = .ok file ∧
    machine.drive? (UInt8.ofNat placement.number) =
      some (options.drive placement.kind { store := .image file })

/-- The image is a hard disk whose number the optical disc has as well. -/
def Placement.Taken (options : Options) (placement : Placement) : Prop :=
  placement.kind = .fixed ∧ placement.number = 0xe0 ∧ options.optical.isSome

/-- Puts images into their drives, one after the other. -/
def place (files : Files) (options : Options) :
    Machine → List Placement → Outcome Problem Machine
  | machine, [] => .ok machine
  | machine, placement :: rest => do
    let next ← attachImage files (options.drive placement.kind) machine placement.number
      placement.path
    place files options next rest

section Rows

variable {kind : DriveKind} {first : Nat} {paths : List String} {placement : Placement}

theorem placed_cons (kind : DriveKind) (first : Nat) (path : String) (rest : List String) :
    placed kind first (path :: rest) =
      { number := first, kind, path } :: placed kind (first + 1) rest := by
  simp only [placed, List.mapIdx_cons, Nat.add_zero, List.cons.injEq, true_and]
  apply congrArg (List.mapIdx · rest)
  funext index name
  rw [Nat.add_right_comm, Nat.add_assoc]

theorem mem_placed :
    placement ∈ placed kind first paths ↔ placement.kind = kind ∧ first ≤ placement.number ∧
      paths[placement.number - first]? = some placement.path := by
  rw [placed, List.mem_mapIdx]
  constructor
  · rintro ⟨index, inside, rfl⟩
    refine ⟨rfl, Nat.le_add_right first index, ?_⟩
    rw [Nat.add_sub_cancel_left]
    exact List.getElem?_eq_getElem inside
  · rintro ⟨rfl, above, found⟩
    obtain ⟨inside, same⟩ := List.getElem?_eq_some_iff.mp found
    refine ⟨placement.number - first, inside, ?_⟩
    rw [same, Nat.add_sub_cancel' above]

theorem number_lt_of_mem (member : placement ∈ placed kind first paths) :
    placement.number < first + paths.length := by
  obtain ⟨-, above, found⟩ := mem_placed.mp member
  obtain ⟨inside, -⟩ := List.getElem?_eq_some_iff.mp found
  omega

theorem placed_increases (kind : DriveKind) (first : Nat) (paths : List String) :
    (placed kind first paths).Pairwise fun front back => front.number < back.number := by
  induction paths generalizing first with
  | nil => exact .nil
  | cons path rest ih =>
    rw [placed_cons]
    refine .cons ?_ (ih (first + 1))
    intro later member
    exact (mem_placed.mp member).2.1

end Rows

section Placing

variable {files : Files} {options : Options} {machine after : Machine}
  {placements front back : List Placement} {placement : Placement}

theorem attachImage_eq_ok {fill : Medium → Drive} {number : Nat} {path : String} :
    attachImage files fill machine number path = .ok after ↔
      number < UInt8.size ∧ ∃ file, files path = .ok file ∧
        machine.attach (UInt8.ofNat number) (fill { store := .image file }) = after := by
  unfold attachImage imageAt
  cases files path with
  | error cause => simp
  | ok file =>
    by_cases beyond : UInt8.size ≤ number
    · simp [beyond, Nat.not_lt.mpr beyond]
    · simp [beyond, Nat.lt_of_not_le beyond, pure]

theorem place_cons (machine : Machine) (placement : Placement) (rest : List Placement) :
    place files options machine (placement :: rest) =
      (attachImage files (options.drive placement.kind) machine placement.number placement.path >>=
        fun next => place files options next rest) := rfl

theorem attachImages_eq_place (kind : DriveKind) (first : Nat) (paths : List String)
    (machine : Machine) :
    attachImages files (options.drive kind) machine first paths =
      place files options machine (placed kind first paths) := by
  induction paths generalizing first machine with
  | nil => rfl
  | cons path rest ih =>
    rw [placed_cons, place_cons, attachImages]
    simp only [ih]

theorem place_append (front back : List Placement) (machine : Machine) :
    place files options machine (front ++ back) =
      (place files options machine front >>= fun next => place files options next back) := by
  induction front generalizing machine with
  | nil => rfl
  | cons placement rest ih =>
    rw [List.cons_append, place_cons, place_cons]
    cases attachImage files (options.drive placement.kind) machine placement.number
      placement.path with
    | ok next => exact ih next
    | error cause => rfl
    | fault reason => rfl

theorem attachAll_eq_place (files : Files) (options : Options) :
    attachAll files options = place files options {} options.placements := by
  rw [Options.placements, place_append]
  simp only [place_append, attachAll, attachImages_eq_place]
  rfl

/-- How putting images into drives may end. Only a number that is too large is a fault, and only a
file that cannot be opened is refused. -/
theorem place_ends (placements : List Placement) (machine : Machine) :
    match place files options machine placements with
    | .ok _ => ∀ placement ∈ placements,
        placement.number < UInt8.size ∧ ∃ file, files placement.path = .ok file
    | .error problem => ∃ placement ∈ placements, ∃ cause,
        files placement.path = .error cause ∧ problem = .unopened placement.path cause
    | .fault reason => reason = .overflow ∧ ∃ placement ∈ placements,
        UInt8.size ≤ placement.number := by
  induction placements generalizing machine with
  | nil => exact fun _ member => nomatch member
  | cons placement rest ih =>
    rw [place_cons]
    cases found : files placement.path with
    | error cause =>
      simp only [attachImage, imageAt, found, Outcome.error_bind]
      exact ⟨placement, List.mem_cons_self, cause, found, rfl⟩
    | ok file =>
      by_cases beyond : UInt8.size ≤ placement.number
      · simp only [attachImage, imageAt, found, Outcome.ok_bind, if_pos beyond, Outcome.fault_bind]
        exact ⟨trivial, placement, List.mem_cons_self, beyond⟩
      · have attaching : attachImage files (options.drive placement.kind) machine placement.number
            placement.path = .ok (machine.attach (UInt8.ofNat placement.number)
              (options.drive placement.kind { store := .image file })) :=
          attachImage_eq_ok.mpr ⟨Nat.lt_of_not_le beyond, file, found, rfl⟩
        rw [attaching, Outcome.ok_bind]
        have ends := ih (machine.attach (UInt8.ofNat placement.number)
          (options.drive placement.kind { store := .image file }))
        split at ends
        · rw [List.forall_mem_cons]
          exact ⟨⟨Nat.lt_of_not_le beyond, file, found⟩, ends⟩
        · obtain ⟨missing, later, unopened⟩ := ends
          exact ⟨missing, List.mem_cons_of_mem placement later, unopened⟩
        · obtain ⟨overflow, large, later, beyond⟩ := ends
          exact ⟨overflow, large, List.mem_cons_of_mem placement later, beyond⟩

/-- A drive whose number no image has is left alone. -/
theorem place_others (run : place files options machine placements = .ok after)
    {other : DriveNumber} (apart : ∀ placement ∈ placements, placement.number ≠ other.toNat) :
    after.drive? other = machine.drive? other := by
  induction placements generalizing machine with
  | nil =>
    cases run
    rfl
  | cons placement rest ih =>
    rw [place_cons, Outcome.bind_eq_ok] at run
    obtain ⟨next, attaching, run⟩ := run
    obtain ⟨fits, file, -, rfl⟩ := attachImage_eq_ok.mp attaching
    rw [ih run fun later member => apart later (List.mem_cons_of_mem placement member)]
    rw [Machine.drive?_attach, if_neg]
    intro same
    apply apart placement List.mem_cons_self
    rw [same, UInt8.toNat_ofNat_of_lt' fits]

/-- An image stays in its drive as long as no later image has its number. -/
theorem place_attached (run : place files options machine (front ++ placement :: back) = .ok after)
    (free : ∀ later ∈ back, later.number ≠ placement.number) :
    placement.Attached files options after := by
  rw [place_append, Outcome.bind_eq_ok] at run
  obtain ⟨middle, -, run⟩ := run
  rw [place_cons, Outcome.bind_eq_ok] at run
  obtain ⟨next, attaching, run⟩ := run
  obtain ⟨fits, file, found, rfl⟩ := attachImage_eq_ok.mp attaching
  refine ⟨file, found, ?_⟩
  rw [place_others run, Machine.drive?_attach, if_pos rfl]
  rw [UInt8.toNat_ofNat_of_lt' fits]
  exact free

end Placing

section Numbers

variable {options : Options} {placement : Placement}

theorem checkCounts_eq_ok (checked : checkCounts options = .ok ()) :
    options.images.length ≤ options.diskCount ∧ options.floppies.length ≤ 0x80 := by
  unfold checkCounts at checked
  split at checked
  · cases checked
  · split at checked
    · cases checked
    · split at checked
      · cases checked
      · rename_i _ enough few
        exact ⟨Nat.le_of_not_lt enough, Nat.le_of_not_lt few⟩

theorem mem_optical :
    placement ∈ placed .optical 0xe0 options.optical.toList ↔
      placement.kind = .optical ∧ placement.number = 0xe0 ∧
        options.optical = some placement.path := by
  rw [mem_placed]
  apply and_congr_right
  intro _
  cases options.optical with
  | none => simp
  | some path =>
    rw [Option.toList_some, List.getElem?_singleton]
    constructor
    · rintro ⟨above, found⟩
      split at found
      · exact ⟨by omega, found⟩
      · cases found
    · rintro ⟨same, found⟩
      rw [same]
      exact ⟨Nat.le_refl 0xe0, found⟩

theorem mem_placements :
    placement ∈ options.placements ↔ placement ∈ placed .fixed 0x80 options.images ∨
      placement ∈ placed .floppy 0 options.floppies ∨
      placement ∈ placed .optical 0xe0 options.optical.toList := by
  rw [Options.placements, List.mem_append, List.mem_append]

/-- Two images have the same number only if they are a hard disk and the optical disc. -/
theorem placements_clash (few : options.floppies.length ≤ 0x80) :
    options.placements.Pairwise fun front back =>
      front.number = back.number → front.Taken options ∧ back.kind = .optical := by
  have apart (kind : DriveKind) (first : Nat) (paths : List String) :
      (placed kind first paths).Pairwise fun front back =>
        front.number = back.number → front.Taken options ∧ back.kind = .optical :=
    (placed_increases kind first paths).imp fun less same => absurd same (Nat.ne_of_lt less)
  rw [Options.placements, List.pairwise_append, List.pairwise_append]
  refine ⟨apart .fixed _ _, ⟨apart .floppy _ _, apart .optical _ _, ?_⟩, ?_⟩
  · intro floppy inFloppies disc isDisc same
    have below := number_lt_of_mem inFloppies
    have disc := mem_optical.mp isDisc
    omega
  · intro disk inDisks other later same
    obtain ⟨fixed, above, -⟩ := mem_placed.mp inDisks
    obtain inFloppies | isDisc := List.mem_append.mp later
    · have below := number_lt_of_mem inFloppies
      omega
    · -- The row of the hard disks goes on past the number of the optical disc.
      obtain ⟨optical, number, given⟩ := mem_optical.mp isDisc
      exact ⟨⟨fixed, same.trans number, by rw [given]; rfl⟩, optical⟩

theorem disk_mem {index : Nat} (inside : index < options.images.length) :
    ⟨0x80 + index, .fixed, options.images[index]⟩ ∈ options.placements := by
  apply mem_placements.mpr
  left
  apply mem_placed.mpr
  refine ⟨rfl, Nat.le_add_right 0x80 index, ?_⟩
  rw [Nat.add_sub_cancel_left]
  exact List.getElem?_eq_getElem inside

/-- An 8-bit number is enough for every image if there are at most 128 hard disks. -/
theorem numbers_fit_iff (few : options.floppies.length ≤ 0x80) :
    (∀ placement ∈ options.placements, placement.number < UInt8.size) ↔
      options.images.length ≤ 0x80 := by
  have limit : UInt8.size = 0x100 := rfl
  constructor
  · intro fit
    apply Nat.le_of_not_lt
    intro many
    have below := fit _ (disk_mem many)
    dsimp only at below
    omega
  · intro fewDisks placement member
    obtain inDisks | inFloppies | isDisc := mem_placements.mp member
    · have below := number_lt_of_mem inDisks
      omega
    · have below := number_lt_of_mem inFloppies
      omega
    · have disc := mem_optical.mp isDisc
      omega

theorem Placement.Taken.mem_disks (taken : placement.Taken options)
    (member : placement ∈ options.placements) :
    placement ∈ placed .fixed 0x80 options.images := by
  obtain inDisks | inFloppies | isDisc := mem_placements.mp member
  · exact inDisks
  · have same := taken.1.symm.trans (mem_placed.mp inFloppies).1
    cases same
  · have same := taken.1.symm.trans (mem_optical.mp isDisc).1
    cases same

/-- Beside an optical disc, the 97th hard disk has no number of its own. -/
theorem none_taken_iff :
    (∀ placement ∈ options.placements, ¬ placement.Taken options) ↔
      options.optical = none ∨ options.images.length ≤ 0x60 := by
  constructor
  · intro free
    by_cases absent : options.optical = none
    · exact .inl absent
    · right
      apply Nat.le_of_not_lt
      intro many
      exact free _ (disk_mem many) ⟨rfl, rfl, Option.isSome_iff_ne_none.mpr absent⟩
  · intro room placement member taken
    have below := number_lt_of_mem (taken.mem_disks member)
    obtain ⟨-, number, given⟩ := taken
    obtain absent | few := room
    · rw [absent] at given
      cases given
    · omega

/-- The numbers of all images differ exactly if none of them is taken. -/
theorem numbers_nodup_iff (few : options.floppies.length ≤ 0x80) :
    (options.placements.map Placement.number).Nodup ↔
      ∀ placement ∈ options.placements, ¬ placement.Taken options := by
  rw [List.Nodup, List.pairwise_map]
  constructor
  · intro differ placement member taken
    have inDisks := taken.mem_disks member
    obtain ⟨-, number, given⟩ := taken
    obtain ⟨path, given⟩ := Option.isSome_iff_exists.mp given
    obtain ⟨-, -, apart⟩ := List.pairwise_append.mp differ
    have isDisc : ⟨0xe0, .optical, path⟩ ∈ placed .optical 0xe0 options.optical.toList :=
      mem_optical.mpr ⟨rfl, rfl, given⟩
    exact apart placement inDisks _ (List.mem_append_right _ isDisc) number
  · intro free
    apply (placements_clash few).imp_of_mem
    intro front back inFront _ clash same
    exact free front inFront (clash same).1

end Numbers

end FirmwareDisk.Survey
