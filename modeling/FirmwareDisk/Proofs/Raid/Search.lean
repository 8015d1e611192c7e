import FirmwareDisk.Raid.Detection
import FirmwareDisk.Proofs.BlockDevice

set_option autoImplicit false

namespace FirmwareDisk.Raid

def places (size : Nat) : List Nat :=
  if 24 ≤ size then [(size - 16) / 8 * 8, 0, 8] else []

def headerAt (contents : Flat) (place : Nat) : Bytes :=
  contents.slice (place * 512) 256

/-- Whether the header at a place is of version 1 and says that it belongs there. -/
def ValidAt (contents : Flat) (place : Nat) : Prop :=
  Bytes.word 4 (headerAt contents place) 0 = 0xa92b4efc ∧
    Bytes.word 4 (headerAt contents place) 4 = 1 ∧
    Bytes.word 8 (headerAt contents place) 144 = place

instance (contents : Flat) (place : Nat) : Decidable (ValidAt contents place) :=
  inferInstanceAs (Decidable (_ ∧ _ ∧ _))

def creationAt (contents : Flat) (place : Nat) : Nat :=
  Bytes.word 8 (headerAt contents place) 64

/-- The place of the newest valid copy, and the first such place. -/
def Newest (contents : Flat) (seen : List Nat) (place : Nat) : Prop :=
  ∃ front back, seen = front ++ place :: back ∧ ValidAt contents place ∧
    (∀ earlier ∈ front, ValidAt contents earlier →
      creationAt contents earlier < creationAt contents place) ∧
    (∀ later ∈ back, ValidAt contents later →
      creationAt contents later ≤ creationAt contents place)

namespace Newest

variable {contents : Flat} {seen : List Nat} {place other : Nat}

theorem valid (newest : Newest contents seen place) : ValidAt contents place := by
  obtain ⟨_, _, _, valid, _⟩ := newest
  exact valid

theorem le (newest : Newest contents seen place) (listed : other ∈ seen)
    (valid : ValidAt contents other) : creationAt contents other ≤ creationAt contents place := by
  obtain ⟨front, back, rfl, _, older, notNewer⟩ := newest
  rcases List.mem_append.mp listed with earlier | rest
  · exact Nat.le_of_lt (older other earlier valid)
  · rcases List.mem_cons.mp rest with rfl | later
    · exact Nat.le_refl _
    · exact notNewer other later valid

/-- There is one newest copy at most: of two, the one that is met second is not newer, so the one
that is met first was not older. -/
theorem unique (first : Newest contents seen place) (second : Newest contents seen other) :
    place = other := by
  obtain ⟨front, back, split, valid, older, notNewer⟩ := first
  obtain ⟨front', back', split', valid', older', notNewer'⟩ := second
  rcases List.append_eq_append_iff.mp (split.symm.trans split') with
    ⟨between, rfl, rest⟩ | ⟨between, rfl, rest⟩
  · rcases between with _ | ⟨head, between⟩
    · exact (List.cons.inj rest).1
    · obtain ⟨rfl, rfl⟩ := List.cons.inj rest
      have before := older' place (by simp) valid
      have after := notNewer other (by simp) valid'
      omega
  · rcases between with _ | ⟨head, between⟩
    · exact (List.cons.inj rest).1.symm
    · obtain ⟨rfl, rfl⟩ := List.cons.inj rest
      have before := older other (by simp) valid'
      have after := notNewer' place (by simp) valid
      omega

theorem skip (newest : Newest contents seen place) (invalid : ¬ ValidAt contents other) :
    Newest contents (seen ++ [other]) place := by
  obtain ⟨front, back, rfl, valid, older, notNewer⟩ := newest
  refine ⟨front, back ++ [other], by simp, valid, older, fun later listed validLater => ?_⟩
  rcases List.mem_append.mp listed with listed | listed
  · exact notNewer later listed validLater
  · rw [List.mem_singleton.mp listed] at validLater
    exact (invalid validLater).elim

theorem stay (newest : Newest contents seen place)
    (notNewer : creationAt contents other ≤ creationAt contents place) :
    Newest contents (seen ++ [other]) place := by
  obtain ⟨front, back, rfl, valid, older, others⟩ := newest
  refine ⟨front, back ++ [other], by simp, valid, older, fun later listed validLater => ?_⟩
  rcases List.mem_append.mp listed with listed | listed
  · exact others later listed validLater
  · rwa [List.mem_singleton.mp listed]

theorem last (valid : ValidAt contents place) (newer : ∀ earlier ∈ seen, ValidAt contents earlier →
    creationAt contents earlier < creationAt contents place) :
    Newest contents (seen ++ [place]) place :=
  ⟨seen, [], rfl, valid, newer, fun _ listed => (List.not_mem_nil listed).elim⟩

end Newest

theorem superblock_of_header (contents : Flat) (place : Nat) :
    ∃ superblock, Superblock1.ofBytes? (headerAt contents place) = some superblock ∧
      (superblock.BelongsAt place ↔ ValidAt contents place) ∧
      superblock.creationTime = creationAt contents place := by
  have long : ¬ (headerAt contents place).length < Superblock1.headerSize := by
    simp only [headerAt, Flat.length_slice, Superblock1.headerSize, Nat.lt_irrefl,
      not_false_eq_true]
  exact ⟨_, if_neg long, Iff.rfl, rfl⟩

/-- The best copy after the header at one more place. -/
def considered (best : Option Superblock1) (place : Nat) (header : Bytes) : Option Superblock1 :=
  match Superblock1.ofBytes? header with
  | none => best
  | some found => if found.BelongsAt place then some (newer best found) else best

/-- What the search has found in the places it has seen: the newest valid copy, if any is valid. -/
def Found (contents : Flat) (seen : List Nat) : Option Superblock1 → Prop
  | none => ∀ place ∈ seen, ¬ ValidAt contents place
  | some best => ∃ place, Newest contents seen place ∧
      Superblock1.ofBytes? (headerAt contents place) = some best

/-- One more place. -/
theorem Found.step {contents : Flat} {seen : List Nat} {best : Option Superblock1}
    (found : Found contents seen best) (place : Nat) :
    Found contents (seen ++ [place]) (considered best place (headerAt contents place)) := by
  obtain ⟨superblock, read, belongs, created⟩ := superblock_of_header contents place
  simp only [considered, read, belongs]
  by_cases valid : ValidAt contents place
  · rw [if_pos valid]
    cases best with
    | none =>
      exact ⟨place, .last valid fun earlier listed valid => (found earlier listed valid).elim, read⟩
    | some best =>
      obtain ⟨held, newest, heldRead⟩ := found
      obtain ⟨same, same_read, _, heldCreated⟩ := superblock_of_header contents held
      obtain rfl : same = best := Option.some.inj (same_read.symm.trans heldRead)
      simp only [newer, heldCreated, created]
      -- Among equals the earlier place stays, since only a greater creation time counts.
      by_cases newer : creationAt contents held < creationAt contents place
      · rw [if_pos newer]
        exact ⟨place, .last valid fun earlier listed valid =>
          Nat.lt_of_le_of_lt (newest.le listed valid) newer, read⟩
      · rw [if_neg newer]
        exact ⟨held, newest.stay (Nat.not_lt.mp newer), heldRead⟩
  · rw [if_neg valid]
    cases best with
    | none =>
      intro other listed
      rcases List.mem_append.mp listed with listed | listed
      · exact found other listed
      · rwa [List.mem_singleton.mp listed]
    | some best =>
      obtain ⟨held, newest, heldRead⟩ := found
      exact ⟨held, newest.skip valid, heldRead⟩

/-- The best copy after the headers at some places. -/
def chosen (listed : List Nat) (headers : List Bytes) (best : Option Superblock1) :
    Option Superblock1 :=
  (listed.zip headers).foldl (fun best read => considered best read.1 read.2) best

theorem Found.run {contents : Flat} {seen : List Nat} {best : Option Superblock1}
    (found : Found contents seen best) (rest : List Nat) :
    Found contents (seen ++ rest) (chosen rest (rest.map (headerAt contents)) best) := by
  induction rest generalizing seen best with
  | nil => rwa [List.append_nil]
  | cons place rest ih =>
    have next := ih (found.step place)
    rwa [List.append_assoc, List.singleton_append] at next

theorem found_chosen (contents : Flat) (listed : List Nat) :
    Found contents listed (chosen listed (listed.map (headerAt contents)) none) := by
  have nothing : Found contents [] none := fun _ none => (List.not_mem_nil none).elim
  exact nothing.run listed

theorem Newest.of_valid {contents : Flat} {listed : List Nat}
    (present : ∃ place ∈ listed, ValidAt contents place) :
    ∃ place, Newest contents listed place := by
  obtain ⟨place, inside, valid⟩ := present
  have found := found_chosen contents listed
  revert found
  cases chosen listed (listed.map (headerAt contents)) none with
  | none => exact fun found => (found place inside valid).elim
  | some best => exact fun ⟨newest, isNewest, _⟩ => ⟨newest, isNewest⟩

variable {δ : Type} [BlockDevice δ]

/-- Reads the headers at some places, until one place cannot be read. -/
def readHeaders : List Nat → Action δ DiskError (List Bytes)
  | [] => pure []
  | place :: rest => do
    let header ← BlockDevice.fetch place 0 256
    let later ← readHeaders rest
    return header :: later

-- A read is never computed here, however long its buffer is.
attribute [local irreducible] BlockDevice.fetch

theorem readHeaders_cons (place : Nat) (rest : List Nat) :
    (readHeaders (place :: rest) : Action δ DiskError (List Bytes)) =
      BlockDevice.fetch place 0 256 >>= fun header =>
        readHeaders rest >>= fun later => pure (header :: later) := rfl

/-- One place of the search. -/
theorem searchV1_cons (place : Nat) (rest : List Nat) (best : Option Superblock1) :
    (searchV1 (place :: rest) best : Action δ RaidError (Option Superblock1)) =
      Action.mapError .disk (BlockDevice.fetch place 0 256) >>= fun header =>
        searchV1 rest (considered best place header) := by
  have choice (header : Bytes) : (match Superblock1.ofBytes? header with
      | none => searchV1 rest best
      | some found => if found.BelongsAt place then searchV1 rest (some (newer best found))
        else searchV1 rest best : Action δ RaidError (Option Superblock1)) =
          searchV1 rest (considered best place header) := by
    unfold considered
    cases Superblock1.ofBytes? header with
    | none => rfl
    | some found =>
      simp only
      split <;> rfl
  simp only [← choice]
  rfl

/-- Headers that can be read are those that are there. -/
theorem readHeaders_ends {kept : δ → Prop} {size : Nat} {contents : Flat}
    (holds : BlockDevice.Holds kept size contents) (listed : List Nat) {device : δ}
    (start : kept device) :
    Action.Ends (readHeaders listed) device
      (fun headers after => kept after ∧ headers = listed.map (headerAt contents))
      (fun _ after => kept after) (fun _ _ => False) := by
  induction listed generalizing device with
  | nil => exact ⟨start, rfl⟩
  | cons place rest ih =>
    rw [readHeaders_cons]
    refine (holds.fetch_ends start place 0 (by decide)).bind ?_
    rintro header middle ⟨held, read⟩
    refine (ih held).bind ?_
    rintro later after ⟨held, rfl⟩
    exact ⟨held, by rw [read, List.map_cons, headerAt, Nat.add_zero, sectorSize]⟩

/-- The search is the reading of the headers, and then the choice among them. -/
theorem searchV1_eq (listed : List Nat) (best : Option Superblock1) (device : δ) :
    searchV1 listed best device =
      (Action.mapError .disk (readHeaders listed) >>= fun headers =>
        pure (chosen listed headers best)) device := by
  induction listed generalizing best device with
  | nil => rfl
  | cons place rest ih =>
    simp only [searchV1_cons, readHeaders_cons, Action.bind_apply, Action.mapError]
    rcases BlockDevice.fetch place 0 256 device with ⟨header | cause | reason, middle⟩
    · simp only [Outcome.mapError, ih, Action.bind_apply, Action.mapError]
      rcases readHeaders rest middle with ⟨later | cause | reason, after⟩ <;> rfl
    · rfl
    · rfl

end FirmwareDisk.Raid
