import FirmwareDisk.Proofs.Bytes
import FirmwareDisk.Proofs.Raid.Search
import FirmwareDisk.Medium.Basic

set_option autoImplicit false

namespace FirmwareDisk.Raid

/-- The level that a superblock states at an offset, where the old multipath level is a mirror. -/
def levelAt (raw : Bytes) (offset : Nat) : Int :=
  if signed (Bytes.word 4 raw offset) = -4 then 1 else signed (Bytes.word 4 raw offset)

/-- What a version 1.x header says about the array. -/
def described1 (raw : Bytes) : ArrayMember where
  version := .v1
  arrayNumber := 0
  level := levelAt raw 72
  layout := Bytes.word 4 raw 76
  members := Bytes.word 4 raw 92
  memberIndex := Bytes.word 4 raw 160
  perMemberSize := Bytes.word 8 raw 136
  dataOffset := Bytes.word 8 raw 128
  chunkSize := Bytes.word 4 raw 88
  uuid := Bytes.slice raw 16 16
  name :=
    if Bytes.byte raw 32 = 0 then none
    else some (Utf8.decode ((Bytes.slice raw 32 32).takeWhile (· != 0)))

/-- What a version 0.90 superblock, read from a sector, says about the array. -/
def described090 (raw : Bytes) (sector : Nat) : ArrayMember where
  version := .v090
  arrayNumber := Bytes.word 4 raw 44
  level := levelAt raw 28
  layout := Bytes.word 4 raw 256
  members := Bytes.word 4 raw 40
  memberIndex := Bytes.word 4 raw 3968
  perMemberSize := if Bytes.word 4 raw 32 = 0 then sector else 2 * Bytes.word 4 raw 32
  dataOffset := 0
  chunkSize := Bytes.word 4 raw 260 / 512
  uuid := Bytes.slice raw 20 4 ++ Bytes.slice raw 52 12
  name := none

/-- What the words of a version 0.90 superblock, read from a sector, make of it. -/
structure Verdict (raw : Bytes) (sector : Nat) (outcome : Outcome RaidError ArrayMember) :
    Prop where
  notRaid_iff : outcome = .error .notRaid ↔ Bytes.word 4 raw 0 ≠ 0xa92b4efc
  unsupportedVersion_iff : ∀ major minor,
    outcome = .error (.unsupportedVersion major minor) ↔
      Bytes.word 4 raw 0 = 0xa92b4efc ∧ ¬ (major = 0 ∧ minor = 90) ∧
        major = Bytes.word 4 raw 4 ∧ minor = Bytes.word 4 raw 8
  unsupportedLevel_iff : ∀ level,
    outcome = .error (.unsupportedLevel level) ↔
      Bytes.word 4 raw 0 = 0xa92b4efc ∧ (Bytes.word 4 raw 4 = 0 ∧ Bytes.word 4 raw 8 = 90) ∧
        level ∉ [0, 1, 4, 5, 6, 10] ∧ level = levelAt raw 28
  ok_iff : ∀ member,
    outcome = .ok member ↔
      Bytes.word 4 raw 0 = 0xa92b4efc ∧ (Bytes.word 4 raw 4 = 0 ∧ Bytes.word 4 raw 8 = 90) ∧
        levelAt raw 28 ∈ [0, 1, 4, 5, 6, 10] ∧ member = described090 raw sector

namespace Verdict

variable {raw : Bytes} {sector : Nat}

theorem notRaid (foreign : Bytes.word 4 raw 0 ≠ 0xa92b4efc) :
    Verdict raw sector (.error .notRaid) where
  notRaid_iff := ⟨fun _ => foreign, fun _ => rfl⟩
  unsupportedVersion_iff _ _ := ⟨nofun, fun ⟨marked, _⟩ => absurd marked foreign⟩
  unsupportedLevel_iff _ := ⟨nofun, fun ⟨marked, _⟩ => absurd marked foreign⟩
  ok_iff _ := ⟨nofun, fun ⟨marked, _⟩ => absurd marked foreign⟩

variable (marked : Bytes.word 4 raw 0 = 0xa92b4efc)
include marked

theorem unsupportedVersion (other : ¬ (Bytes.word 4 raw 4 = 0 ∧ Bytes.word 4 raw 8 = 90)) :
    Verdict raw sector
      (.error (.unsupportedVersion (Bytes.word 4 raw 4) (Bytes.word 4 raw 8))) where
  notRaid_iff := ⟨nofun, fun foreign => absurd marked foreign⟩
  unsupportedVersion_iff major minor := by
    constructor
    · rintro ⟨⟩
      exact ⟨marked, other, rfl, rfl⟩
    · rintro ⟨-, -, rfl, rfl⟩
      rfl
  unsupportedLevel_iff _ := ⟨nofun, fun ⟨_, version, _⟩ => absurd version other⟩
  ok_iff _ := ⟨nofun, fun ⟨_, version, _⟩ => absurd version other⟩

variable (version : Bytes.word 4 raw 4 = 0 ∧ Bytes.word 4 raw 8 = 90)
include version

theorem unsupportedLevel (unknown : levelAt raw 28 ∉ [0, 1, 4, 5, 6, 10]) :
    Verdict raw sector (.error (.unsupportedLevel (levelAt raw 28))) where
  notRaid_iff := ⟨nofun, fun foreign => absurd marked foreign⟩
  unsupportedVersion_iff _ _ := by
    refine ⟨nofun, ?_⟩
    rintro ⟨-, other, rfl, rfl⟩
    exact absurd version other
  unsupportedLevel_iff level := by
    constructor
    · rintro ⟨⟩
      exact ⟨marked, version, unknown, rfl⟩
    · rintro ⟨-, -, -, rfl⟩
      rfl
  ok_iff _ := ⟨nofun, fun ⟨_, _, known, _⟩ => absurd known unknown⟩

theorem described (known : levelAt raw 28 ∈ [0, 1, 4, 5, 6, 10]) :
    Verdict raw sector (.ok (described090 raw sector)) where
  notRaid_iff := ⟨nofun, fun foreign => absurd marked foreign⟩
  unsupportedVersion_iff _ _ := by
    refine ⟨nofun, ?_⟩
    rintro ⟨-, other, rfl, rfl⟩
    exact absurd version other
  unsupportedLevel_iff _ := by
    refine ⟨nofun, ?_⟩
    rintro ⟨-, -, unknown, rfl⟩
    exact absurd known unknown
  ok_iff member := by
    constructor
    · rintro ⟨⟩
      exact ⟨marked, version, known, rfl⟩
    · rintro ⟨-, -, -, rfl⟩
      rfl

end Verdict

theorem name_isEmpty_iff (raw : Bytes) :
    ((Bytes.slice raw 32 32).takeWhile (· != 0)).isEmpty = true ↔ Bytes.byte raw 32 = 0 := by
  rw [Bytes.byte, List.getD_eq_getElem?_getD, ← Nat.add_zero 32, ← List.getElem?_drop, Bytes.slice]
  cases raw.drop 32 with
  | nil => simp
  | cons first rest =>
    by_cases zero : first = 0
    · simp [zero]
    · simp [zero]

/-- A version 1.x superblock says about the array what its header does. -/
theorem member_eq_described {raw : Bytes} {superblock : Superblock1}
    (fields : Superblock1.ofBytes? raw = some superblock) :
    superblock.member = described1 raw := by
  unfold Superblock1.ofBytes? at fields
  split at fields
  · cases fields
  · cases fields
    simp only [Superblock1.member, Superblock1.name?, name_isEmpty_iff]
    rfl

theorem uuid_of_words {raw : Bytes} (long : 64 ≤ raw.length) :
    ([20, 52, 56, 60].map (Bytes.word 4 raw)).flatMap (Bytes.ofNat 4) =
      Bytes.slice raw 20 4 ++ Bytes.slice raw 52 12 := by
  have word (offset : Nat) (inside : offset + 4 ≤ 64) :
      Bytes.ofNat 4 (Bytes.word 4 raw offset) = Bytes.slice raw offset 4 :=
    Bytes.ofNat_word (by omega)
  have last : Bytes.slice raw 52 12 =
      Bytes.slice raw 52 4 ++ (Bytes.slice raw 56 4 ++ Bytes.slice raw 60 4) := by
    rw [Bytes.slice_append_slice raw 56 4 4, Bytes.slice_append_slice raw 52 4 8]
  simp only [List.map_cons, List.map_nil, List.flatMap_cons, List.flatMap_nil, List.append_nil,
    word 20 (by decide), word 52 (by decide), word 56 (by decide), word 60 (by decide), last]

theorem ofBytes?_described {raw : Bytes} (length : raw.length = 4096) (sector : Nat) :
    ∃ superblock, Superblock090.ofBytes? raw = some superblock ∧
      superblock.magic = Bytes.word 4 raw 0 ∧
      superblock.majorVersion = Bytes.word 4 raw 4 ∧
      superblock.minorVersion = Bytes.word 4 raw 8 ∧
      reportedLevel superblock.level = levelAt raw 28 ∧
      superblock.member sector (levelAt raw 28) = described090 raw sector := by
  have long : ¬ raw.length < Superblock090.byteSize := by
    rw [length, Superblock090.byteSize]
    decide
  refine ⟨_, if_neg long, rfl, rfl, rfl, rfl, ?_⟩
  simp only [Superblock090.member, Superblock090.uuid, uuid_of_words (by omega : 64 ≤ raw.length),
    described090, Nat.mul_comm]

/-- The words of a superblock of full length decide what is made of it. -/
theorem interpretV090_verdict {raw : Bytes} (length : raw.length = 4096) (sector : Nat) :
    Verdict raw sector (.ofExcept (interpretV090 raw sector)) := by
  obtain ⟨superblock, fields, magic, major, minor, level, member⟩ :=
    ofBytes?_described length sector
  simp only [interpretV090, fields, magic, major, minor, level, member, Raid.magic, knownLevels]
  -- One case for each answer, in the order in which the words are looked at.
  by_cases marked : Bytes.word 4 raw 0 = 0xa92b4efc
  · rw [if_neg (not_not_intro marked)]
    by_cases version : Bytes.word 4 raw 4 = 0 ∧ Bytes.word 4 raw 8 = 90
    · rw [if_neg (by omega)]
      by_cases known : levelAt raw 28 ∈ [0, 1, 4, 5, 6, 10]
      · rw [if_neg (not_not_intro known)]
        exact .described marked version known
      · rw [if_pos known]
        exact .unsupportedLevel marked version known
    · rw [if_pos (by omega)]
      exact .unsupportedVersion marked version
  · rw [if_pos marked]
    exact .notRaid marked

variable {δ : Type} [BlockDevice δ]

/-- How the look at the reserved block ends on a device of `size` sectors, and what it leaves of it.
-/
inductive ReservedDecision (contents : Flat) (size : Nat) (device : δ) :
    Outcome RaidError ArrayMember × δ → Prop
  | small (below : size < 128) : ReservedDecision contents size device (.error .notRaid, device)
  | unreadable {cause : DiskError} {after : δ} (large : 128 ≤ size)
    (read : BlockDevice.fetch (size / 128 * 128 - 128) 0 4096 device = (.error cause, after)) :
    ReservedDecision contents size device (.error (.disk cause), after)
  | words {raw : Bytes} {outcome : Outcome RaidError ArrayMember} {after : δ} (large : 128 ≤ size)
    (read : BlockDevice.fetch (size / 128 * 128 - 128) 0 4096 device = (.ok raw, after))
    (bytes : raw = contents.slice ((size / 128 * 128 - 128) * 512) 4096)
    (verdict : Verdict raw (size / 128 * 128 - 128) outcome) :
    ReservedDecision contents size device (outcome, after)

/-- How detection ends on a device of `size` sectors, and what it leaves of it. -/
inductive Decision (contents : Flat) (size : Nat) (device : δ) :
    Outcome RaidError ArrayMember × δ → Prop
  | unreadable {cause : DiskError} {after : δ}
    (read : readHeaders (places size) device = (.error cause, after)) :
    Decision contents size device (.error (.disk cause), after)
  | newest {place : Nat} {after : δ}
    (read : readHeaders (places size) device = (.ok ((places size).map (headerAt contents)), after))
    (newest : Newest contents (places size) place) :
    Decision contents size device (.ok (described1 (headerAt contents place)), after)
  | reserved {middle : δ} {run : Outcome RaidError ArrayMember × δ}
    (read : readHeaders (places size) device =
      (.ok ((places size).map (headerAt contents)), middle))
    (absent : ∀ place ∈ places size, ¬ ValidAt contents place)
    (decision : ReservedDecision contents size middle run) : Decision contents size device run

-- A read is never computed here, however long its buffer is.
attribute [local irreducible] BlockDevice.fetch

/-- What is made of the best copy of version 1.x: without one, the reserved block decides. -/
def concluded (size : Nat) : Option Superblock1 → Action δ RaidError ArrayMember
  | some superblock => pure superblock.member
  | none => readV090 size

/-- Detection on a device of known size is the search and the conclusion from it. -/
theorem detect_eq {device : δ} (known : BlockDevice.totalSectors device ≠ unknownTotal) :
    detect device =
      (searchV1 (places (BlockDevice.totalSectors device)) none >>=
        concluded (BlockDevice.totalSectors device)) device := by
  have listed (size : Nat) :
      (if size < minimumV1Sectors then [] else candidateSectors size) = places size := by
    by_cases large : 24 ≤ size
    · exact (if_neg (Nat.not_lt.mpr large)).trans (if_pos large).symm
    · exact (if_pos (Nat.not_le.mp large)).trans (if_neg large).symm
  rw [detect, Action.look_bind, if_neg known, listed]
  rfl

theorem reservedStart?_eq (size : Nat) :
    reservedStart? size = if size < 128 then none else some (size / 128 * 128 - 128) := by
  by_cases small : size < 128
  · exact (if_pos (show size / 128 * 128 < 128 by omega)).trans (if_pos small).symm
  · exact (if_neg (show ¬ size / 128 * 128 < 128 by omega)).trans (if_neg small).symm

/-- The look at the reserved block decides as documented. -/
theorem readV090_decides {kept : δ → Prop} {size : Nat} {contents : Flat}
    (holds : BlockDevice.Holds kept size contents) {device : δ} (start : kept device) :
    ReservedDecision contents size device (readV090 size device) := by
  by_cases small : size < 128
  · rw [readV090, reservedStart?_eq, if_pos small]
    exact .small small
  · have large : 128 ≤ size := Nat.not_lt.mp small
    rw [readV090, reservedStart?_eq, if_neg small]
    simp only [fetch, Superblock090.byteSize]
    have block := holds.fetch_ends start (size / 128 * 128 - 128) 0 (show 0 < 4096 by decide)
    obtain ⟨raw, after, read, _, bytes⟩ | ⟨cause, after, read, _⟩ | ⟨_, _, _, never⟩ := block.cases
    · rw [Action.bind_apply, Action.mapError, read]
      rw [Nat.add_zero, sectorSize] at bytes
      refine .words large read bytes (interpretV090_verdict ?_ _)
      rw [bytes, Flat.length_slice]
    · rw [Action.bind_apply, Action.mapError, read]
      exact .unreadable large read
    · exact never.elim

/-- Detection decides as documented on every device of known size whose reads return its bytes or
are refused. -/
theorem detect_decides {kept : δ → Prop} {size : Nat} {contents : Flat}
    (holds : BlockDevice.Holds kept size contents) (known : size ≠ unknownTotal) {device : δ}
    (start : kept device) : Decision contents size device (detect device) := by
  obtain rfl := holds.size_eq device start
  rw [detect_eq known]
  obtain ⟨_, middle, read, held, rfl⟩ | ⟨cause, after, read, _⟩ | ⟨_, _, _, never⟩ :=
    (readHeaders_ends holds (places (BlockDevice.totalSectors device)) start).cases
  -- With all headers read, the search is the choice of the newest valid one.
  · have searched : searchV1 (places (BlockDevice.totalSectors device)) none device =
        (.ok (chosen (places (BlockDevice.totalSectors device))
          ((places (BlockDevice.totalSectors device)).map (headerAt contents)) none), middle) := by
      rw [searchV1_eq, Action.bind_apply, Action.mapError, read]
      rfl
    have found := found_chosen contents (places (BlockDevice.totalSectors device))
    rw [Action.bind_of_ok searched]
    cases best : chosen (places (BlockDevice.totalSectors device))
        ((places (BlockDevice.totalSectors device)).map (headerAt contents)) none with
    | some superblock =>
      rw [best] at found
      obtain ⟨place, newest, fields⟩ := found
      rw [concluded, member_eq_described fields]
      exact .newest read newest
    | none =>
      rw [best] at found
      exact .reserved read found (readV090_decides holds held)
  · have refused : searchV1 (places (BlockDevice.totalSectors device)) none device =
        (.error (.disk cause), after) := by
      rw [searchV1_eq, Action.bind_apply, Action.mapError, read]
      rfl
    rw [Action.bind_of_error refused]
    exact .unreadable read
  · exact never.elim

/-- The first words of a version 1.x superblock that belongs at a place. -/
def markedHeader (place creation : Nat) : Bytes :=
  Bytes.ofNat 4 0xa92b4efc ++ Bytes.ofNat 4 1 ++ Bytes.zeros 56 ++ Bytes.ofNat 8 creation ++
    Bytes.zeros 72 ++ Bytes.ofNat 8 place

/-- An image of 32 sectors with an older copy at sector 0 and a newer one at sector 8. -/
def twoCopies : Medium where
  store := .image {
    path := "two.img"
    byteLength := 32 * 512
    byteAt := fun offset =>
      if offset < 512 then (markedHeader 0 5).getD offset 0
      else (markedHeader 8 7).getD (offset - 8 * 512) 0 }

/-- The header of a member of an array, for a place on a disk. Every field depends on the number of
the member. -/
def memberHeader (place creation number : Nat) : Bytes :=
  Bytes.ofNat 4 0xa92b4efc ++ Bytes.ofNat 4 1 ++ Bytes.zeros 8 ++
    List.replicate 16 (UInt8.ofNat (0xa0 + number)) ++
    UInt8.ofNat (0x60 + number) :: Bytes.zeros 31 ++
    Bytes.ofNat 8 creation ++ Bytes.ofNat 4 (4 + number) ++ Bytes.ofNat 4 number ++
    Bytes.ofNat 8 (1000 * number) ++ Bytes.ofNat 4 (64 * number) ++ Bytes.ofNat 4 (3 + number) ++
    Bytes.zeros 32 ++ Bytes.ofNat 8 (16 * number) ++ Bytes.ofNat 8 (1000 * number) ++
    Bytes.ofNat 8 place ++ Bytes.zeros 8 ++ Bytes.ofNat 4 number

/-- An image of 32 sectors with the first member at sector 0 and, created later, the second one at
sector 8. -/
def twoMembers : Medium where
  store := .image {
    path := "members.img"
    byteLength := 32 * 512
    byteAt := fun offset =>
      if offset < 8 * 512 then (memberHeader 0 5 1).getD offset 0
      else (memberHeader 8 7 2).getD (offset - 8 * 512) 0 }

/-- The later member is described, and not a field of the earlier one. -/
theorem detect_decides_twoMembers :
    BlockDevice.Holds (· = twoMembers) 32 twoMembers.flat ∧ 32 ≠ unknownTotal ∧
      Newest twoMembers.flat (places 32) 8 ∧
      Decision twoMembers.flat 32 twoMembers (detect twoMembers) ∧
      described1 (headerAt twoMembers.flat 0) = {
        version := .v1, arrayNumber := 0, level := 5, layout := 1, members := 4
        memberIndex := 1, perMemberSize := 1000, dataOffset := 16, chunkSize := 64
        uuid := List.replicate 16 0xa1, name := some "a" } ∧
      (detect twoMembers).1 = .ok {
        version := .v1, arrayNumber := 0, level := 6, layout := 2, members := 5
        memberIndex := 2, perMemberSize := 2000, dataOffset := 32, chunkSize := 128
        uuid := List.replicate 16 0xa2, name := some "b" } := by
  refine ⟨twoMembers.holds, by decide, ⟨[16, 0], [], rfl, ?_, ?_, ?_⟩,
    detect_decides twoMembers.holds (by decide) rfl, ?_, ?_⟩
  all_goals decide +kernel

end FirmwareDisk.Raid
