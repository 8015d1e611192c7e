import FirmwareDisk.Proofs.Medium.Readable
import FirmwareDisk.Proofs.Raid.Detection

set_option autoImplicit false

namespace FirmwareDisk.Raid

def secondAt (contents : Flat) (place : Nat) : Nat :=
  creationAt contents place % 0x10000000000

def microsecondAt (contents : Flat) (place : Nat) : Nat :=
  creationAt contents place / 0x10000000000

/-- Whether a copy was created before another. Microseconds count within a second only. -/
def Precedes (contents : Flat) (place other : Nat) : Prop :=
  secondAt contents place < secondAt contents other ∨
    secondAt contents place = secondAt contents other ∧
      microsecondAt contents place < microsecondAt contents other

instance (contents : Flat) (place other : Nat) : Decidable (Precedes contents place other) :=
  inferInstanceAs (Decidable (_ ∨ _ ∧ _))

/-- The place of the valid copy that was created last, and the first such place. -/
def Latest (contents : Flat) (seen : List Nat) (place : Nat) : Prop :=
  ∃ front back, seen = front ++ place :: back ∧ ValidAt contents place ∧
    (∀ earlier ∈ front, ValidAt contents earlier → Precedes contents earlier place) ∧
    (∀ later ∈ back, ValidAt contents later → ¬ Precedes contents place later)

theorem creationAt_eq (contents : Flat) (place : Nat) :
    creationAt contents place =
      0x10000000000 * microsecondAt contents place + secondAt contents place :=
  (Nat.div_add_mod ..).symm

theorem secondAt_lt (contents : Flat) (place : Nat) : secondAt contents place < 0x10000000000 :=
  Nat.mod_lt _ (by decide)

/-- A copy that is older by its field was created before, unless its second is the later one. -/
theorem creationAt_lt_iff (contents : Flat) (place other : Nat) :
    creationAt contents place < creationAt contents other ↔
      microsecondAt contents place < microsecondAt contents other ∨
        microsecondAt contents place = microsecondAt contents other ∧
          secondAt contents place < secondAt contents other := by
  have field := creationAt_eq contents place
  have field' := creationAt_eq contents other
  have bound := secondAt_lt contents place
  have bound' := secondAt_lt contents other
  omega

namespace Latest

variable {contents : Flat} {seen : List Nat} {place other : Nat}

theorem not_precedes (latest : Latest contents seen place) (listed : other ∈ seen)
    (valid : ValidAt contents other) : ¬ Precedes contents place other := by
  obtain ⟨front, back, rfl, _, before, notAfter⟩ := latest
  rcases List.mem_append.mp listed with earlier | rest
  · have precedes := before other earlier valid
    unfold Precedes at precedes ⊢
    omega
  · rcases List.mem_cons.mp rest with rfl | later
    · unfold Precedes
      omega
    · exact notAfter other later valid

theorem behind (latest : Latest contents seen place)
    (before : ValidAt contents other → Precedes contents other place) :
    Latest contents (other :: seen) place := by
  obtain ⟨front, back, rfl, valid, earlier, notAfter⟩ := latest
  refine ⟨other :: front, back, rfl, valid, ?_, notAfter⟩
  intro copy listed validCopy
  rcases List.mem_cons.mp listed with rfl | listed
  · exact before validCopy
  · exact earlier copy listed validCopy

theorem first (valid : ValidAt contents place)
    (notAfter : ∀ copy ∈ seen, ValidAt contents copy → ¬ Precedes contents place copy) :
    Latest contents (place :: seen) place :=
  ⟨[], seen, rfl, valid, fun _ listed => (List.not_mem_nil listed).elim, notAfter⟩

/-- If any copy is valid, one of them is the latest. -/
theorem of_valid (present : ∃ place ∈ seen, ValidAt contents place) :
    ∃ place, Latest contents seen place := by
  induction seen with
  | nil =>
    obtain ⟨_, listed, _⟩ := present
    exact (List.not_mem_nil listed).elim
  | cons head rest ih =>
    by_cases others : ∃ place ∈ rest, ValidAt contents place
    · obtain ⟨place, latest⟩ := ih others
      by_cases before : ValidAt contents head → Precedes contents head place
      · exact ⟨place, latest.behind before⟩
      · obtain ⟨valid, notBefore⟩ := Classical.not_imp.mp before
        refine ⟨head, .first valid ?_⟩
        intro copy listed validCopy
        have notAfter := latest.not_precedes listed validCopy
        unfold Precedes at notBefore notAfter ⊢
        omega
    · obtain ⟨place, listed, valid⟩ := present
      rcases List.mem_cons.mp listed with rfl | listed
      · exact ⟨place, .first valid fun copy listed valid => (others ⟨copy, listed, valid⟩).elim⟩
      · exact (others ⟨place, listed, valid⟩).elim

/-- The latest copy is the newest by its field exactly if every copy of an earlier second has at
most as many microseconds. -/
theorem newest_iff {newest latest : Nat} (isNewest : Newest contents seen newest)
    (isLatest : Latest contents seen latest) :
    newest = latest ↔ ∀ place ∈ seen, ValidAt contents place →
      secondAt contents place < secondAt contents latest →
        microsecondAt contents place ≤ microsecondAt contents latest := by
  constructor
  · intro same place listed valid earlier
    subst same
    have notNewer := isNewest.le listed valid
    have newer := (creationAt_lt_iff contents newest place).mpr
    omega
  · intro ordered
    obtain ⟨front, back, rfl, valid, before, notAfter⟩ := isLatest
    apply isNewest.unique
    refine ⟨front, back, rfl, valid, ?_, ?_⟩
    · intro copy listed validCopy
      have precedes := before copy listed validCopy
      have few := ordered copy (List.mem_append_left _ listed) validCopy
      apply (creationAt_lt_iff contents copy latest).mpr
      unfold Precedes at precedes
      omega
    · intro copy listed validCopy
      have notLater := notAfter copy listed validCopy
      have few := ordered copy
        (List.mem_append_right _ (List.mem_cons_of_mem _ listed)) validCopy
      apply Nat.not_lt.mp
      intro newer
      have split := (creationAt_lt_iff contents latest copy).mp newer
      unfold Precedes at notLater
      omega

end Latest

variable {δ : Type} [BlockDevice δ]

-- A read is never computed here, however long its buffer is.
attribute [local irreducible] BlockDevice.fetch

/-- Where all headers can be read and a copy is valid, the newest one is reported. -/
theorem detect_of_newest {kept : δ → Prop} {size : Nat} {contents : Flat}
    (holds : BlockDevice.Holds kept size contents) (known : size ≠ unknownTotal) {device after : δ}
    (start : kept device) {headers : List Bytes}
    (read : readHeaders (places size) device = (.ok headers, after)) {newest : Nat}
    (isNewest : Newest contents (places size) newest) :
    ∃ superblock, Superblock1.ofBytes? (headerAt contents newest) = some superblock ∧
      detect device = (.ok superblock.member, after) := by
  obtain rfl := holds.size_eq device start
  obtain ⟨_, rfl⟩ := (readHeaders_ends holds _ start).of_ok read
  have searched : searchV1 (places (BlockDevice.totalSectors device)) none device =
      (.ok (chosen (places (BlockDevice.totalSectors device))
        ((places (BlockDevice.totalSectors device)).map (headerAt contents)) none), after) := by
    rw [searchV1_eq, Action.bind_apply, Action.mapError, read]
    rfl
  have found := found_chosen contents (places (BlockDevice.totalSectors device))
  rw [detect_eq known, Action.bind_of_ok searched]
  cases best : chosen (places (BlockDevice.totalSectors device))
      ((places (BlockDevice.totalSectors device)).map (headerAt contents)) none with
  | some superblock =>
    rw [best] at found
    obtain ⟨place, alsoNewest, fields⟩ := found
    rw [isNewest.unique alsoNewest]
    exact ⟨superblock, fields, rfl⟩
  | none =>
    rw [best] at found
    obtain ⟨front, back, split, valid, _⟩ := isNewest
    exact (found newest (by rw [split]; simp) valid).elim

/-- On every device of known size whose headers can all be read and where a copy of version 1.x is
valid, detection reports the copy whose creation field is greatest. That is the copy that was
created last, and of those created together the first, exactly if every copy of an earlier second
has at most as many microseconds. -/
theorem detect_reports_latest_iff {kept : δ → Prop} {size : Nat} {contents : Flat}
    (holds : BlockDevice.Holds kept size contents) (known : size ≠ unknownTotal) {device after : δ}
    (start : kept device) {headers : List Bytes}
    (read : readHeaders (places size) device = (.ok headers, after))
    (present : ∃ place ∈ places size, ValidAt contents place) :
    ∃ newest latest superblock,
      Newest contents (places size) newest ∧ Latest contents (places size) latest ∧
      Superblock1.ofBytes? (headerAt contents newest) = some superblock ∧
      detect device = (.ok superblock.member, after) ∧
      (newest = latest ↔ ∀ place ∈ places size, ValidAt contents place →
        secondAt contents place < secondAt contents latest →
          microsecondAt contents place ≤ microsecondAt contents latest) := by
  obtain ⟨newest, isNewest⟩ := Newest.of_valid present
  obtain ⟨latest, isLatest⟩ := Latest.of_valid present
  obtain ⟨superblock, fields, detected⟩ := detect_of_newest holds known start read isNewest
  exact ⟨newest, latest, superblock, isNewest, isLatest, fields, detected,
    isLatest.newest_iff isNewest⟩

/-- All headers of a sound medium can be read. -/
theorem readHeaders_of_sound {medium : Medium} (sound : medium.Sound) {listed : List Nat}
    (inside : ∀ place ∈ listed, place < medium.totalSectors) :
    readHeaders listed medium = (.ok (listed.map (headerAt medium.flat)), medium) := by
  induction listed with
  | nil => rfl
  | cons place rest ih =>
    have here := inside place (List.mem_cons_self ..)
    have later := ih fun other listed => inside other (List.mem_cons_of_mem _ listed)
    have readable : medium.Readable place 1 := sound.readable Nat.one_pos here
    have length : (Bytes.zeros (1 * sectorSize)).length = 1 * sectorSize := List.length_replicate
    have near : ¬ UInt64.size ≤ place := Nat.not_le.mpr (Nat.lt_trans here sound.size)
    have one : sectorsToHold (0 % sectorSize + 256) = 1 := by decide
    have cut := BlockDevice.cut_slice medium.flat place 0 256
    simp only [Nat.zero_div, Nat.add_zero, one] at cut
    have header : BlockDevice.fetch place 0 256 medium =
        (.ok (headerAt medium.flat place), medium) := by
      simp only [BlockDevice.fetch_eq (show 0 < 256 by decide), Nat.zero_div, Nat.add_zero, near,
        ↓reduceIte, one, readable.read length, cut]
      rfl
    rw [readHeaders_cons, Action.bind_of_ok header, Action.bind_of_ok later]
    rfl

theorem detect_reports_latest_iff_twoCopies :
    BlockDevice.Holds (· = twoCopies) 32 twoCopies.flat ∧ 32 ≠ unknownTotal ∧
      (∃ headers, readHeaders (places 32) twoCopies = (.ok headers, twoCopies)) ∧
      ValidAt twoCopies.flat 0 ∧ ValidAt twoCopies.flat 8 ∧
      ∃ newest latest superblock,
        Newest twoCopies.flat (places 32) newest ∧ Latest twoCopies.flat (places 32) latest ∧
        Superblock1.ofBytes? (headerAt twoCopies.flat newest) = some superblock ∧
        detect twoCopies = (.ok superblock.member, twoCopies) ∧
        (newest = latest ↔ ∀ place ∈ places 32, ValidAt twoCopies.flat place →
          secondAt twoCopies.flat place < secondAt twoCopies.flat latest →
            microsecondAt twoCopies.flat place ≤ microsecondAt twoCopies.flat latest) := by
  have sound : twoCopies.Sound :=
    ⟨rfl, by decide, fun file stored => by cases stored; decide,
      fun file stored => by cases stored; rfl⟩
  have read : readHeaders (places 32) twoCopies = _ := readHeaders_of_sound sound (by decide)
  have valid : ValidAt twoCopies.flat 8 := by decide +kernel
  exact ⟨twoCopies.holds, by decide, ⟨_, read⟩, by decide +kernel, valid,
    detect_reports_latest_iff twoCopies.holds (by decide) rfl read ⟨8, by decide, valid⟩⟩

/-- An image of 32 sectors whose copy at sector 0 is of second 5 and one microsecond, and whose copy
at sector 8 is of second 7. The copies are of different members. -/
def strayCopies : Medium where
  store := .image {
    path := "stray.img"
    byteLength := 32 * 512
    byteAt := fun offset =>
      if offset < 512 then
        (markedHeader 0 0x10000000005 ++ Bytes.zeros 8 ++ Bytes.ofNat 4 1).getD offset 0
      else (markedHeader 8 7 ++ Bytes.zeros 8 ++ Bytes.ofNat 4 2).getD (offset - 8 * 512) 0 }

/-- The copy that was created last is passed over for one of an earlier second. -/
theorem detect_passes_over_latest :
    ValidAt strayCopies.flat 0 ∧ ValidAt strayCopies.flat 8 ∧
      Latest strayCopies.flat (places 32) 8 ∧
      (Superblock1.ofBytes? (headerAt strayCopies.flat 8)).map (·.deviceNumber) = some 2 ∧
      (detect strayCopies).1 = .ok {
        version := .v1, arrayNumber := 0, level := 0, layout := 0, members := 0
        memberIndex := 1, perMemberSize := 0, dataOffset := 0, chunkSize := 0
        uuid := Bytes.zeros 16, name := none } := by
  refine ⟨by decide +kernel, by decide +kernel, ⟨[16, 0], [], rfl, ?_, ?_, ?_⟩, ?_, ?_⟩
  all_goals decide +kernel

end FirmwareDisk.Raid
