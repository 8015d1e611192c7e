import FirmwareDisk.Proofs.Raid.Detection

set_option autoImplicit false

namespace FirmwareDisk.Raid

variable {δ γ : Type} {kept : δ → Prop} {failing : Prop} {original : γ} {device : δ}

/-- A run on a device ends as the run on its original does, unless the device fails. -/
def Follows {α : Type} (kept : δ → Prop) (failing : Prop) (original : γ)
    (action : Action δ RaidError α) (same : Action γ RaidError α) (device : δ) : Prop :=
  Action.Ends action device
    (fun value after => kept after ∧ same original = (.ok value, original))
    (fun cause _ => (failing ∧ ∃ reason, cause = .disk reason) ∨
      same original = (.error cause, original))
    (fun _ _ => False)

/-- What follows a run on both goes on from the same value. -/
theorem Follows.bind {α β : Type} {action : Action δ RaidError α} {same : Action γ RaidError α}
    {next : α → Action δ RaidError β} {sameNext : α → Action γ RaidError β}
    (first : Follows kept failing original action same device)
    (rest : ∀ value after, kept after →
      Follows kept failing original (next value) (sameNext value) after) :
    Follows kept failing original (action >>= next) (same >>= sameNext) device := by
  refine Action.Ends.bind (first.mono (fun _ _ done => done) ?_) ?_
  · rintro cause _ (failed | refused)
    · exact Or.inl failed
    · exact Or.inr (Action.bind_of_error refused)
  · rintro value after ⟨held, run⟩
    have going := rest value after held
    rw [Action.bind_of_ok run]
    exact going

variable [BlockDevice δ] [BlockDevice γ]

/-- Some bytes inside the device are read from both. -/
theorem fetch_follows (mirrors : BlockDevice.Mirrors kept failing original) (start : kept device)
    {sector length : Nat} (wanted : 0 < length)
    (inside : sector + sectorsToHold length ≤ BlockDevice.totalSectors original) :
    Follows kept failing original (Action.mapError .disk (BlockDevice.fetch sector 0 length))
      (Action.mapError .disk (BlockDevice.fetch sector 0 length)) device := by
  have within : sector + 0 / sectorSize + sectorsToHold (0 % sectorSize + length) ≤
      BlockDevice.totalSectors original := by
    rwa [Nat.zero_div, Nat.zero_mod, Nat.add_zero, Nat.zero_add]
  refine .mapError ((mirrors.fetch_ends start wanted within).mono ?_ ?_)
  · rintro bytes after ⟨held, run⟩
    exact ⟨held, by rw [Action.mapError, run]; rfl⟩
  · rintro cause _ (failed | refused)
    · exact Or.inl ⟨failed, cause, rfl⟩
    · exact Or.inr (by rw [Action.mapError, refused]; rfl)

-- A read is never computed here, however long its buffer is.
attribute [local irreducible] BlockDevice.fetch

theorem places_inside {size place : Nat} (listed : place ∈ places size) : place + 1 ≤ size := by
  unfold places at listed
  split at listed
  · simp only [List.mem_cons, List.not_mem_nil, or_false] at listed
    omega
  · cases listed

theorem searchV1_follows (mirrors : BlockDevice.Mirrors kept failing original)
    (start : kept device) (listed : List Nat) (best : Option Superblock1)
    (inside : ∀ place ∈ listed, place + 1 ≤ BlockDevice.totalSectors original) :
    Follows kept failing original (searchV1 listed best) (searchV1 listed best) device := by
  induction listed generalizing best device with
  | nil => exact ⟨start, rfl⟩
  | cons place rest ih =>
    rw [searchV1_cons, searchV1_cons]
    refine (fetch_follows mirrors start (by decide) (inside place List.mem_cons_self)).bind ?_
    intro header after held
    exact ih held _ fun other member => inside other (List.mem_cons_of_mem place member)

theorem readV090_follows (mirrors : BlockDevice.Mirrors kept failing original)
    (start : kept device) :
    Follows kept failing original (readV090 (BlockDevice.totalSectors original))
      (readV090 (BlockDevice.totalSectors original)) device := by
  unfold readV090
  cases reserved : reservedStart? (BlockDevice.totalSectors original) with
  | none => exact Or.inr rfl
  | some sector =>
    have inside : sector + sectorsToHold Superblock090.byteSize ≤
        BlockDevice.totalSectors original := by
      have eight : sectorsToHold Superblock090.byteSize = 8 := rfl
      rw [reservedStart?_eq] at reserved
      split at reserved
      · cases reserved
      · simp only [Option.some.injEq] at reserved
        omega
    refine (fetch_follows mirrors start (by decide) inside).bind ?_
    intro raw after held
    cases said : interpretV090 raw sector with
    | ok member => exact ⟨held, rfl⟩
    | error cause => exact Or.inr rfl

/-- Detection answers for a device that mirrors an original as it does for the original, unless the
device fails. -/
theorem detect_follows (mirrors : BlockDevice.Mirrors kept failing original)
    (start : kept device) : Follows kept failing original detect detect device := by
  have size := mirrors.size_eq device start
  by_cases known : BlockDevice.totalSectors original = unknownTotal
  · have refused : (detect original : Outcome RaidError ArrayMember × γ) =
        (.error .notRaid, original) := by
      rw [detect, Action.look_bind, if_pos known]
      rfl
    unfold Follows
    rw [detect, Action.ends_look_bind, size, if_pos known]
    exact Or.inr refused
  · have inside := fun place => @places_inside (BlockDevice.totalSectors original) place
    have both : Follows kept failing original
        (searchV1 (places (BlockDevice.totalSectors original)) none >>=
          concluded (BlockDevice.totalSectors original))
        (searchV1 (places (BlockDevice.totalSectors original)) none >>=
          concluded (BlockDevice.totalSectors original)) device := by
      refine (searchV1_follows mirrors start _ none inside).bind fun found after held => ?_
      cases found with
      | some superblock => exact ⟨held, rfl⟩
      | none => exact readV090_follows mirrors held
    unfold Follows Action.Ends at both ⊢
    rw [detect_eq (size ▸ known), detect_eq known, size]
    exact both

end FirmwareDisk.Raid
