import FirmwareDisk.Geometry.Probe
import FirmwareDisk.Proofs.Geometry.Address

set_option autoImplicit false

namespace FirmwareDisk.Geometry

def secondHead : Chs := { cylinder := 0, head := 1, sector := 1 }

def secondCylinder : Chs := { cylinder := 1, head := 0, sector := 1 }

def lastMark? (sector : Bytes) : Option Nat :=
  if FbOverride.lastWord sector = FbOverride.signature then none
  else some (FbOverride.lastWord sector)

variable {base heads sectors linear : Nat} {head cylinder : Bytes} {shape : TrackShape}

/-- A shape under which two sectors are where their marks say, counted from the override's sector. -/
structure Agrees (base : Nat) (head cylinder : Bytes) (shape : TrackShape) : Prop where
  addressable : Addressable shape.heads shape.sectors
  head : ∃ mark, marker? head = some mark ∧ base ≤ mark ∧
    (secondHead.linear64 shape.heads shape.sectors : Outcome DiskError _) = .ok (some (mark - base))
  cylinder : ∃ mark, lastMark? cylinder = some mark ∧ base ≤ mark ∧
    (secondCylinder.linear64 shape.heads shape.sectors : Outcome DiskError _) =
      .ok (some (mark - base))

/-- The shape that two sectors with the same mark are given: a single head, whose track is as long as
the mark is far from the override's sector. -/
structure Undivided (base : Nat) (head cylinder : Bytes) (shape : TrackShape) : Prop where
  addressable : Addressable shape.heads shape.sectors
  single : shape.heads = 1
  head : marker? head = some (base + shape.sectors)
  cylinder : lastMark? cylinder = some (base + shape.sectors)

theorem secondHead_linear? (positive : 1 ≤ sectors) :
    secondHead.linear? heads sectors = some linear ↔ 2 ≤ heads ∧ linear = sectors := by
  have one : (1 : UInt8).toNat = 1 := rfl
  have zero : (0 : UInt16).toNat = 0 := rfl
  rw [Chs.linear?_eq_some_iff]
  simp only [Chs.Within, secondHead, one, zero, Nat.zero_mul, Nat.zero_add, Nat.one_mul]
  omega

theorem secondCylinder_linear? (positive : 1 ≤ heads) (someSector : 1 ≤ sectors) :
    secondCylinder.linear? heads sectors = some linear ↔ linear = heads * sectors := by
  have one : (1 : UInt8).toNat = 1 := rfl
  have zero : (0 : UInt8).toNat = 0 := rfl
  have next : (1 : UInt16).toNat = 1 := rfl
  rw [Chs.linear?_eq_some_iff]
  simp only [Chs.Within, secondCylinder, one, zero, next, Nat.one_mul, Nat.add_zero, Nat.sub_self]
  omega

/-- Under a shape of one head, there is no sector on the second. -/
theorem Undivided.unnamed (undivided : Undivided base head cylinder shape) :
    (secondHead.linear64 shape.heads shape.sectors : Outcome DiskError _) = .ok none := by
  rw [undivided.addressable.nameable.linear64_eq]
  cases found : secondHead.linear? shape.heads shape.sectors with
  | none => rfl
  | some linear =>
    have heads := ((secondHead_linear? undivided.addressable.sectors_pos).mp found).1
    have single := undivided.single
    omega

theorem sectorsShown?_eq_some_iff :
    sectorsShown? base head = some sectors ↔
      ∃ mark, marker? head = some mark ∧ base ≤ mark ∧ mark - base = sectors ∧
        1 ≤ sectors ∧ sectors ≤ 63 := by
  unfold sectorsShown?
  simp only [Option.bind_eq_bind, Option.bind_eq_some_iff]
  refine exists_congr fun mark => and_congr_right fun _ => ?_
  constructor
  · intro chosen
    split at chosen
    · rename_i bounds
      cases chosen
      exact ⟨bounds.1, rfl, bounds.2⟩
    · cases chosen
  · rintro ⟨reached, rfl, bounds⟩
    rw [if_pos ⟨reached, bounds⟩]

theorem lastMark?_eq_some_iff {mark : Nat} :
    lastMark? cylinder = some mark ↔
      FbOverride.lastWord cylinder ≠ FbOverride.signature ∧
        FbOverride.lastWord cylinder = mark := by
  unfold lastMark?
  split
  · rename_i signed
    simp only [reduceCtorEq, ne_eq, signed, not_true_eq_false, false_and]
  · rename_i unsigned
    simp only [Option.some.injEq, ne_eq, unsigned, not_false_eq_true, true_and]

theorem whole_tracks {distance : Nat} (positive : 1 ≤ sectors) :
    distance % sectors = 0 ∧ distance / sectors = heads ↔ distance = heads * sectors := by
  constructor
  · rintro ⟨whole, rfl⟩
    rw [Nat.div_mul_cancel (Nat.dvd_of_mod_eq_zero whole)]
  · rintro rfl
    exact ⟨Nat.mul_mod_left _ _, Nat.mul_div_cancel _ positive⟩

theorem headsShown?_eq_some_iff (positive : 1 ≤ sectors) :
    headsShown? base sectors cylinder = some heads ↔
      ∃ mark, lastMark? cylinder = some mark ∧ base ≤ mark ∧ mark - base = heads * sectors ∧
        1 ≤ heads ∧ heads ≤ 255 := by
  simp only [headsShown?, lastMark?_eq_some_iff, ← whole_tracks positive]
  constructor
  · intro chosen
    split at chosen
    · rename_i bounds
      obtain ⟨unsigned, reached, whole, someHead, few⟩ := bounds
      cases chosen
      exact ⟨_, ⟨unsigned, rfl⟩, reached, ⟨whole, rfl⟩, someHead, few⟩
    · cases chosen
  · rintro ⟨_, ⟨unsigned, rfl⟩, reached, ⟨whole, rfl⟩, someHead, few⟩
    rw [if_pos ⟨unsigned, reached, whole, someHead, few⟩]

/-- The shape that two sectors show agrees with both, or the sectors are not told apart. -/
theorem shown_iff :
    sectorsShown? base head = some shape.sectors ∧
        headsShown? base shape.sectors cylinder = some shape.heads ↔
      Agrees base head cylinder shape ∨ Undivided base head cylinder shape := by
  constructor
  · rintro ⟨sectorsShown, headsShown⟩
    obtain ⟨first, marked, reached, near, someSector, short⟩ :=
      sectorsShown?_eq_some_iff.mp sectorsShown
    obtain ⟨second, ended, passed, far, someHead, few⟩ :=
      (headsShown?_eq_some_iff someSector).mp headsShown
    have addressable : Addressable shape.heads shape.sectors :=
      ⟨someHead, few, someSector, short⟩
    -- Under one head the two marks coincide, and the first address names no sector.
    by_cases single : shape.heads = 1
    · rw [single, Nat.one_mul] at far
      have same : first = base + shape.sectors ∧ second = base + shape.sectors := by omega
      rw [same.1] at marked
      rw [same.2] at ended
      exact Or.inr ⟨addressable, single, marked, ended⟩
    · refine Or.inl ⟨addressable, ⟨first, marked, reached, ?_⟩, ⟨second, ended, passed, ?_⟩⟩
      · rw [addressable.nameable.linear64_eq]
        exact congrArg _ ((secondHead_linear? someSector).mpr ⟨by omega, near⟩)
      · rw [addressable.nameable.linear64_eq]
        exact congrArg _ ((secondCylinder_linear? someHead someSector).mpr far)
  · rintro (agrees | undivided)
    · obtain ⟨first, marked, reached, named⟩ := agrees.head
      obtain ⟨second, ended, passed, counted⟩ := agrees.cylinder
      have addressable := agrees.addressable
      rw [addressable.nameable.linear64_eq, Outcome.ok.injEq] at named counted
      have near := ((secondHead_linear? addressable.sectors_pos).mp named).2
      have far := (secondCylinder_linear? addressable.heads_pos addressable.sectors_pos).mp counted
      exact ⟨sectorsShown?_eq_some_iff.mpr
          ⟨first, marked, reached, near, addressable.sectors_pos, addressable.sectors_le⟩,
        (headsShown?_eq_some_iff addressable.sectors_pos).mpr
          ⟨second, ended, passed, far, addressable.heads_pos, addressable.heads_le⟩⟩
    · obtain ⟨addressable, single, marked, ended⟩ := undivided
      have near : base + shape.sectors - base = shape.sectors := Nat.add_sub_cancel_left _ _
      refine ⟨sectorsShown?_eq_some_iff.mpr ⟨_, marked, Nat.le_add_right _ _, near,
          addressable.sectors_pos, addressable.sectors_le⟩,
        (headsShown?_eq_some_iff addressable.sectors_pos).mpr ⟨_, ended, Nat.le_add_right _ _, ?_,
          addressable.heads_pos, addressable.heads_le⟩⟩
      rw [near, single, Nat.one_mul]

theorem addressable_of_shown (sectorsShown : sectorsShown? base head = some sectors)
    (headsShown : headsShown? base sectors cylinder = some heads) : Addressable heads sectors := by
  have shown : sectorsShown? base head = some ({ heads, sectors } : TrackShape).sectors ∧ _ :=
    ⟨sectorsShown, headsShown⟩
  rcases shown_iff.mp shown with agrees | undivided
  · exact agrees.addressable
  · exact undivided.addressable

end FirmwareDisk.Geometry
