import FirmwareDisk.Transfer.Progress
import FirmwareDisk.Proofs.Action

set_option autoImplicit false

namespace FirmwareDisk

/-- A record that transfers may have brought down, and that is otherwise as it was. -/
def Geometry.Settled (before after : Geometry) : Prop :=
  ∃ mode cap, after = { before with mode, cap }

namespace Geometry.Settled

variable {before middle after : Geometry}

theorem refl (record : Geometry) : Settled record record :=
  ⟨record.mode, record.cap, rfl⟩

theorem trans (front : Settled before middle) (back : Settled middle after) :
    Settled before after := by
  obtain ⟨_, _, rfl⟩ := front
  exact back

theorem settle (rung : Rung) (record : Geometry) : Settled record (rung.settle record) :=
  ⟨rung.mode, rung.cap, rfl⟩

theorem drive (settled : Settled before after) : after.drive = before.drive := by
  obtain ⟨_, _, rfl⟩ := settled
  rfl

theorem optical (settled : Settled before after) : after.optical = before.optical := by
  obtain ⟨_, _, rfl⟩ := settled
  rfl

theorem address (settled : Settled before after) (sector : Nat) :
    after.address sector = before.address sector := by
  obtain ⟨_, _, rfl⟩ := settled
  rfl

end Geometry.Settled

namespace Rung

/-- The rungs of a transfer, the highest one first. -/
def ladder (record : Geometry) (sector count : Nat) : List Rung :=
  top record sector count :: (top record sector count).below record

variable {record : Geometry} {sector count : Nat}

theorem ladder_eq (record : Geometry) (sector count : Nat) :
    ladder record sector count =
      { mode := record.mode
        cap := max 1 record.cap
        length :=
          min (if record.mode = .chs then min count (record.restOfTrack sector) else count)
            (max 1 record.cap) } ::
      ([63, 7, 1].filter (· < (top record sector count).length)).map (fun length =>
        { mode := record.mode, cap := length, length }) ++
      (if record.mode = .lba then [{ mode := .chs, cap := max 1 record.chsCap, length := 1 }]
        else []) := rfl

/-- No rung asks for more than one above it, and only the linear mode is ever given up. -/
def Lower (upper lower : Rung) : Prop :=
  lower.length ≤ upper.length ∧ (lower.mode = upper.mode ∨ upper.mode = .lba ∧ lower.mode = .chs)

theorem lower_of_below {rung lower : Rung} (asked : 0 < rung.length)
    (member : lower ∈ rung.below record) : Lower rung lower := by
  refine ⟨(below_length asked member).2, ?_⟩
  rcases List.mem_append.mp member with short | last
  · obtain ⟨length, -, rfl⟩ := List.mem_map.mp short
    exact Or.inl rfl
  · split at last
    · rename_i linear
      rw [List.mem_singleton] at last
      subst last
      exact Or.inr ⟨linear, rfl⟩
    · cases last

theorem top_few (cap : record.cap ≤ 127) (sector count : Nat) :
    (top record sector count).length ≤ 127 := by
  simp only [top]
  omega

theorem ladder_few (cap : record.cap ≤ 127) (wanted : count ≠ 0) {rung : Rung}
    (member : rung ∈ ladder record sector count) : rung.length ≤ 127 := by
  have few := top_few cap sector count
  rcases List.mem_cons.mp member with rfl | below
  · exact few
  · have asked := (@top_length record sector count (Nat.pos_of_ne_zero wanted)).1
    exact Nat.le_trans (below_length asked below).2 few

theorem shorter_pairwise (rung : Rung) : rung.shorter.Pairwise Lower := by
  have falling : shorterLengths.Pairwise (· ≥ ·) := by decide
  rw [shorter, List.pairwise_map]
  refine (falling.filter _).imp ?_
  intro upper lower less
  exact ⟨less, Or.inl rfl⟩

theorem ladder_pairwise (wanted : 0 < count) : (ladder record sector count).Pairwise Lower := by
  have asked := (@top_length record sector count wanted).1
  rw [ladder, List.pairwise_cons]
  refine ⟨fun lower member => lower_of_below asked member, ?_⟩
  rw [below, List.pairwise_append]
  refine ⟨shorter_pairwise _, ?_, ?_⟩
  · split
    · exact List.pairwise_singleton _ _
    · exact List.Pairwise.nil
  · intro upper short lower last
    have listed : upper ∈ (top record sector count).below record := List.mem_append_left _ short
    have positive := (below_length asked listed).1
    split at last
    · rename_i linear
      rw [List.mem_singleton] at last
      subst last
      obtain ⟨length, -, rfl⟩ := List.mem_map.mp short
      exact ⟨positive, Or.inr ⟨linear, rfl⟩⟩
    · cases last

/-- Below a rung of more than one sector there is another in the same mode, from where the ladder goes
on as if it had begun there. -/
theorem below_of_long {rung : Rung} (long : 1 < rung.length) (record : Geometry) :
    ∃ next : Rung, rung.below record = next :: next.below record ∧ next.mode = rung.mode ∧
      next.cap = next.length ∧ (1 ≤ next.length ∧ next.length ≤ 63) ∧
      next.shorter.length < rung.shorter.length := by
  obtain ⟨mode, cap, length⟩ := rung
  dsimp only at long
  by_cases few : length ≤ 7
  · refine ⟨{ mode, cap := 1, length := 1 }, ?_, rfl, rfl,
      (by decide : 1 ≤ 1 ∧ 1 ≤ 63), ?_⟩
    all_goals
      have short : ¬ 63 < length ∧ ¬ 7 < length := by omega
      simp [below, shorter, shorterLengths, List.filter, short.1, short.2, long]
  · by_cases few : length ≤ 63
    · refine ⟨{ mode, cap := 7, length := 7 }, ?_, rfl, rfl,
      (by decide : 1 ≤ 7 ∧ 7 ≤ 63), ?_⟩
      all_goals
        have short : ¬ 63 < length ∧ 7 < length := by omega
        simp [below, shorter, shorterLengths, List.filter, short.1, short.2, long]
    · refine ⟨{ mode, cap := 63, length := 63 }, ?_, rfl, rfl,
      (by decide : 1 ≤ 63 ∧ 63 ≤ 63), ?_⟩
      all_goals
        have short : 63 < length ∧ 7 < length := by omega
        simp [below, shorter, shorterLengths, List.filter, short.1, short.2, long]

/-- Below a single sector there is nothing but the same sector by address. -/
theorem below_of_single {rung : Rung} (single : rung.length ≤ 1) (record : Geometry) :
    rung.below record = if rung.mode = .lba then [byAddress record] else [] := by
  have shortest : rung.shorter = [] := by
    have short : ¬ 63 < rung.length ∧ ¬ 7 < rung.length ∧ ¬ 1 < rung.length := by omega
    simp [shorter, shorterLengths, List.filter, short.1, short.2.1, short.2.2]
  rw [below, shortest, List.nil_append]

/-- A rung in front of others is not the last one. -/
theorem mem_of_suffix {lower last : Rung} {front rest : List Rung}
    (suffix : lower :: rest <:+ front ++ [last]) : lower ∈ front ∨ rest = [] := by
  obtain ⟨before, same⟩ := suffix
  rcases List.eq_nil_or_concat rest with empty | ⟨init, final, longer⟩
  · exact Or.inr empty
  · left
    rw [longer, List.concat_eq_append, ← List.cons_append, ← List.append_assoc] at same
    have fronts := List.append_inj_left' same rfl
    rw [← fronts]
    exact List.mem_append_right _ List.mem_cons_self

theorem length_ladder_le (record : Geometry) (sector count : Nat) :
    (ladder record sector count).length ≤ 5 := by
  have few : ([63, 7, 1].filter (· < (top record sector count).length)).length ≤ 3 :=
    List.length_filter_le _ _
  rw [ladder_eq]
  simp only [List.cons_append, List.length_cons, List.length_append, List.length_map]
  split
  · simp only [List.length_cons, List.length_nil]
    omega
  · simp only [List.length_nil]
    omega

end Rung

namespace Transfer

variable {σ : Type} [Firmware σ] {direction : Direction} {sector : Nat}

/-- A link whose drive was reset, and whose record has come down to a rung. -/
def lowered (rung : Rung) (link : Link σ) : Link σ where
  record := rung.settle link.record
  channel :=
    { link.channel with firmware := Firmware.reset link.record.drive link.channel.firmware }

/-- The ladder as one case split: how an attempt ends decides what comes after it. -/
theorem descend_eq (settings : Settings) (rung : Rung) (below : List Rung) (link : Link σ) :
    descend settings direction sector rung below link =
      match attempt settings link.record direction sector rung.length link.channel, below with
      | (.ok (), channel), _ => (.ok rung.length, { record := rung.settle link.record, channel })
      | (.error (.final cause), channel), _ => (.error cause, { link with channel })
      | (.fault reason, channel), _ => (.fault reason, { link with channel })
      | (.error (.retryable _), channel), [] =>
        (.error (exhausted direction link.record.drive), { link with channel })
      | (.error (.retryable _), channel), next :: rest =>
        descend settings direction sector next rest (lowered next { link with channel }) := by
  cases below <;> rw [descend, Action.bind_apply, tryRung] <;>
    rcases attempt settings link.record direction sector rung.length link.channel with
      ⟨_ | ⟨_ | _⟩ | _, _⟩ <;> rfl

section

variable {settings : Settings} {returns : Nat → Link σ → Prop}
  {refuses : DiskError → Link σ → Prop} {faults : Fault → Link σ → Prop}

/-- One rung of a descent: the try settles it, or the rungs below go on from where it left off. -/
theorem descend_round {rung : Rung} {below : List Rung} {link : Link σ}
    (tried : Action.Ends (attempt settings link.record direction sector rung.length) link.channel
      (fun _ channel => returns rung.length { record := rung.settle link.record, channel })
      (fun refusal channel =>
        match refusal, below with
        | .final cause, _ => refuses cause { link with channel }
        | .retryable _, [] => refuses (exhausted direction link.record.drive) { link with channel }
        | .retryable _, next :: rest =>
          Action.Ends (descend settings direction sector next rest)
            (lowered next { link with channel }) returns refuses faults)
      (fun reason channel => faults reason { link with channel })) :
    Action.Ends (descend settings direction sector rung below) link returns refuses faults := by
  unfold Action.Ends
  rw [descend_eq]
  obtain ⟨_, channel, run, done⟩ | ⟨refusal, channel, run, done⟩ | ⟨reason, channel, run, done⟩ :=
    tried.cases
  · simp only [run]
    exact done
  · cases refusal with
    | final cause =>
      simp only [run]
      exact done
    | retryable status =>
      simp only [run]
      cases below with
      | nil => exact done
      | cons next rest => exact done
  · simp only [run]
    exact done

/-- An invariant of the descent: it is ready for every rung that is tried. If each try ends as the
descent should, or leaves it ready for the next rung, then so does the descent. -/
theorem descend_of_ready (ready : Rung → List Rung → Link σ → Prop)
    (tried : ∀ rung below link, ready rung below link →
      Action.Ends (attempt settings link.record direction sector rung.length) link.channel
        (fun _ channel => returns rung.length { record := rung.settle link.record, channel })
        (fun refusal channel =>
          match refusal, below with
          | .final cause, _ => refuses cause { link with channel }
          | .retryable _, [] =>
            refuses (exhausted direction link.record.drive) { link with channel }
          | .retryable _, next :: rest => ready next rest (lowered next { link with channel }))
        (fun reason channel => faults reason { link with channel }))
    {rung : Rung} {below : List Rung} {link : Link σ} (first : ready rung below link) :
    Action.Ends (descend settings direction sector rung below) link returns refuses faults := by
  induction below generalizing rung link with
  | nil =>
    refine descend_round ((tried rung [] link first).mono (fun _ _ done => done) ?_)
    intro refusal channel refused
    cases refusal with
    | final cause => exact refused
    | retryable status => exact refused
  | cons next rest ih =>
    refine descend_round ((tried rung (next :: rest) link first).mono (fun _ _ done => done) ?_)
    intro refusal channel refused
    cases refusal with
    | final cause => exact refused
    | retryable status => exact ih refused

end

theorem attempt_of_plain (settings : Settings) {record : Geometry} (plain : record.optical = false)
    (length : Nat) :
    (attempt settings record direction sector length : Action (Channel σ) Refusal Unit) =
      attemptSectors record direction sector length := by
  rw [attempt, plain, if_neg Bool.false_ne_true]

theorem descend_of_final {settings : Settings} {rung : Rung} (below : List Rung) {link : Link σ}
    {cause : DiskError}
    (final : attempt settings link.record direction sector rung.length link.channel =
      (.error (.final cause), link.channel)) :
    descend settings direction sector rung below link = (.error cause, link) := by
  rw [descend_eq, final]

end Transfer

theorem transfer_eq_descend {σ : Type} [Firmware σ] (settings : Settings) (direction : Direction)
    (sector : Nat) {count : Nat} (link : Link σ) (plain : link.record.optical = false)
    (wanted : 0 < count) :
    transfer settings direction sector count link =
      Transfer.descend settings direction sector (Rung.top link.record sector count)
        ((Rung.top link.record sector count).below link.record) link := by
  have nonzero : ¬ count = 0 := by omega
  have writable : ¬ (link.record.optical = true ∧ direction = .write) := by
    simp only [plain, Bool.false_eq_true, false_and, not_false_eq_true]
  rw [transfer, Action.bind_apply]
  simp only [Action.look, nonzero, writable, ↓reduceIte]

end FirmwareDisk
