import FirmwareDisk.Proofs.Transfer.Rungs
import Mathlib.Logic.Relation

set_option autoImplicit false

namespace FirmwareDisk

/-- One step by which a record is brought down. -/
inductive Geometry.Lowers (record : Geometry) : Geometry → Prop
  | shortened {cap : Nat} (some_sectors : 1 ≤ cap) (fewer : cap ≤ record.cap) :
    Lowers record { record with cap }
  | fellBack (linear : record.mode = .lba) :
    Lowers record { record with mode := .chs, cap := record.chsCap }

abbrev Geometry.Lowered : Geometry → Geometry → Prop :=
  Relation.ReflTransGen Geometry.Lowers

namespace Geometry

/-- A record that allows a sector at a time, now and without the linear mode. -/
def Allows (record : Geometry) : Prop :=
  1 ≤ record.cap ∧ 1 ≤ record.chsCap

theorem Lowers.same {record : Geometry} (allows : record.Allows) : Lowers record record :=
  .shortened allows.1 (Nat.le_refl record.cap)

theorem Lowers.allows {before after : Geometry} (lowers : Lowers before after)
    (allows : before.Allows) : after.Allows := by
  cases lowers with
  | shortened some_sectors fewer => exact ⟨some_sectors, allows.2⟩
  | fellBack linear => exact ⟨allows.2, allows.2⟩

theorem Lowers.settled {before after : Geometry} (lowers : Lowers before after) :
    before.Settled after := by
  cases lowers with
  | shortened some_sectors fewer => exact ⟨before.mode, _, rfl⟩
  | fellBack linear => exact ⟨.chs, before.chsCap, rfl⟩

namespace Lowered

variable {before after : Geometry}

theorem settled (lowered : Lowered before after) : before.Settled after := by
  induction lowered with
  | refl => exact .refl before
  | tail _ step settled => exact settled.trans step.settled

/-- The linear mode never comes back. -/
theorem linear (lowered : Lowered before after) (still : after.mode = .lba) :
    before.mode = .lba := by
  induction lowered with
  | refl => exact still
  | tail _ step ih =>
    cases step with
    | shortened some_sectors fewer => exact ih still
    | fellBack linear => exact ih linear

/-- The cap never rises within a mode. In the step that gives up the linear mode it becomes the cap
that was kept for then, and it never rises above that one afterwards. -/
theorem cap (lowered : Lowered before after) :
    after.mode = before.mode ∧ after.cap ≤ before.cap ∨
      before.mode = .lba ∧ after.mode = .chs ∧ after.cap ≤ before.chsCap := by
  induction lowered with
  | refl => exact Or.inl ⟨rfl, Nat.le_refl _⟩
  | tail front step ih =>
    rename_i middle _
    have same : middle.chsCap = before.chsCap := by
      obtain ⟨_, _, rfl⟩ := settled front
      rfl
    cases step with
    | shortened some_sectors fewer =>
      rcases ih with ⟨mode, cap⟩ | ⟨linear, mode, cap⟩
      · exact Or.inl ⟨mode, Nat.le_trans fewer cap⟩
      · exact Or.inr ⟨linear, mode, Nat.le_trans fewer cap⟩
    | fellBack linear =>
      exact Or.inr ⟨Lowered.linear front linear, rfl, Nat.le_of_eq same⟩

end Lowered

/-- Every rung of a transfer lowers the record that the transfer begins with. -/
theorem lowers_of_ladder {record : Geometry} {sector count : Nat} (allows : record.Allows)
    {rung : Rung} (listed : rung ∈ Rung.ladder record sector count) :
    record.Lowers (rung.settle record) := by
  rcases List.mem_cons.mp listed with top | below
  · rw [top, Rung.settle, Rung.top, Nat.max_eq_right allows.1]
    exact .same allows
  rcases List.mem_append.mp below with short | last
  · obtain ⟨length, member, rfl⟩ := List.mem_map.mp short
    obtain ⟨fixed, fewer⟩ := List.mem_filter.mp member
    have positive : ∀ length ∈ Rung.shorterLengths, 1 ≤ length := by decide
    have fewer := of_decide_eq_true fewer
    simp only [Rung.top, Nat.max_eq_right allows.1] at fewer
    exact .shortened (positive length fixed) (show length ≤ record.cap by omega)
  · split at last
    · rename_i linear
      rw [List.mem_singleton.mp last, Rung.settle, Rung.byAddress, Nat.max_eq_right allows.2]
      exact .fellBack linear
    · cases last

end Geometry

/-- One transfer is one step down at most, however it ends. -/
theorem transfer_lowers {σ : Type} [Firmware σ] (settings : Settings) (direction : Direction)
    (sector count : Nat) (link : Link σ) (allows : link.record.Allows) :
    link.record.Lowers (transfer settings direction sector count link).2.record := by
  let kept (after : Link σ) := link.record.Lowers after.record
  have lowers : Action.Ends (transfer settings direction sector count) link
      (fun _ => kept) (fun _ => kept) (fun _ => kept) := by
    unfold transfer
    rw [Action.ends_look_bind]
    split
    · exact .same allows
    split
    · exact .same allows
    -- The record stays one that the transfer's own ladder leads to.
    refine Transfer.descend_of_ready
      (fun rung below lower => link.record.Settled lower.record ∧
        link.record.Lowers lower.record ∧
        ∀ next ∈ rung :: below, link.record.Lowers (next.settle link.record)) ?_
      ⟨.refl link.record, Geometry.Lowers.same allows, fun _ listed =>
        Geometry.lowers_of_ladder allows listed⟩
    rintro rung below lower ⟨settled, now, listed⟩
    have settle (next : Rung) : next.settle lower.record = next.settle link.record := by
      obtain ⟨_, _, same⟩ := settled
      rw [same]
      rfl
    refine .intro ?_ ?_ ?_
    · intro _ channel _
      rw [settle]
      exact listed rung List.mem_cons_self
    · intro refusal channel _
      cases refusal with
      | final cause => exact now
      | retryable status =>
        cases below with
        | nil => exact now
        | cons next rest =>
          have held := listed next (List.mem_cons_of_mem rung List.mem_cons_self)
          refine ⟨settled.trans (.settle next lower.record), ?_,
            fun other member => listed other (List.mem_cons_of_mem rung member)⟩
          rw [Transfer.lowered, settle]
          exact held
    · exact fun _ _ _ => now
  exact lowers.left

end FirmwareDisk
