import FirmwareDisk.Transfer.Ladder

set_option autoImplicit false

namespace FirmwareDisk

/-- Every rung asks for at least one sector, and none for more than the caller wants. -/
theorem Rung.top_length {record : Geometry} {sector count : Nat} (wanted : 0 < count) :
    0 < (Rung.top record sector count).length ∧
      (Rung.top record sector count).length ≤ count := by
  have rest := record.restOfTrack_pos sector
  simp only [Rung.top]
  split <;> omega

theorem Rung.below_length {rung lower : Rung} {record : Geometry} (asked : 0 < rung.length)
    (member : lower ∈ rung.below record) : 0 < lower.length ∧ lower.length ≤ rung.length := by
  simp only [Rung.below, List.mem_append] at member
  rcases member with member | member
  · simp only [Rung.shorter, List.mem_map, List.mem_filter, Rung.shorterLengths,
      decide_eq_true_eq] at member
    obtain ⟨length, ⟨listed, less⟩, rfl⟩ := member
    simp only [List.mem_cons, List.not_mem_nil, or_false] at listed
    dsimp only
    omega
  · split at member
    · simp only [List.mem_singleton] at member
      subst member
      exact ⟨Nat.one_pos, asked⟩
    · cases member

namespace Transfer

variable {σ : Type} [Firmware σ]

/-- What was moved is the length of the rung that succeeded. -/
theorem descend_ok {settings : Settings} {direction : Direction} {sector moved : Nat}
    {rung : Rung} {below : List Rung} {before after : Link σ}
    (success : descend settings direction sector rung below before = (.ok moved, after)) :
    ∃ reached ∈ rung :: below, moved = reached.length := by
  induction below generalizing rung before with
  | nil =>
    rw [descend, Action.bind_eq_ok] at success
    obtain ⟨held, middle, -, success⟩ := success
    cases held with
    | true =>
      cases success
      exact ⟨rung, List.mem_cons_self, rfl⟩
    | false => cases success
  | cons next rest ih =>
    rw [descend, Action.bind_eq_ok] at success
    obtain ⟨held, middle, -, success⟩ := success
    cases held with
    | true =>
      cases success
      exact ⟨rung, List.mem_cons_self, rfl⟩
    | false =>
      obtain ⟨reached, member, same⟩ := ih success
      exact ⟨reached, List.mem_cons_of_mem _ member, same⟩

end Transfer

/-- A transfer that succeeds has moved something, and nothing that was not asked for. -/
theorem transfer_moved {σ : Type} [Firmware σ] {settings : Settings} {direction : Direction}
    {sector count moved : Nat} {before after : Link σ} (wanted : 0 < count)
    (success : transfer settings direction sector count before = (.ok moved, after)) :
    0 < moved ∧ moved ≤ count := by
  rw [transfer, Action.bind_eq_ok] at success
  obtain ⟨record, middle, -, success⟩ := success
  split at success
  · omega
  · split at success
    · simp [Action.refuse] at success
    · obtain ⟨reached, member, same⟩ := Transfer.descend_ok success
      have highest := @Rung.top_length record sector count wanted
      rcases List.mem_cons.mp member with top | lower
      · subst top
        omega
      · have bound := Rung.below_length highest.1 lower
        omega

end FirmwareDisk
