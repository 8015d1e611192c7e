import FirmwareDisk.Proofs.BlockDevice
import FirmwareDisk.Proofs.Session.Enumeration
import FirmwareDisk.Proofs.Session.Mirroring
import FirmwareDisk.Proofs.Transfer.Dependable

set_option autoImplicit false

namespace FirmwareDisk.Session

variable {σ : Type}

/-- A sound session, of whose firmware something is true. -/
structure Held (kept : σ → Prop) (session : Session σ) : Prop where
  sound : session.Sound
  firmware : kept session.channel.firmware

def Recorded (drives : List DriveNumber) (session : Session σ) : Prop :=
  ∀ drive ∈ drives, ∃ record, session.cache.get? drive = some record

variable {kept : σ → Prop} {session : Session σ} {drives : List DriveNumber}

theorem Recorded.insert (recorded : session.Recorded drives) (channel : Channel σ)
    (record : Geometry) :
    Recorded drives { session with channel, cache := session.cache.insert record } := by
  intro drive listed
  dsimp only
  rw [GeometryCache.get?_insert]
  split
  · exact ⟨record, rfl⟩
  · exact recorded drive listed

variable [Firmware σ]

theorem stable_recorded (drives : List DriveNumber) :
    Stable (Recorded drives : Session σ → Prop) := by
  intro before after recorded step
  cases step with
  | exchanged => exact recorded
  | met => exact recorded.insert _ _
  | moved => exact recorded.insert _ _

theorem Enumerated.settings {after : Session σ} {reached : List (DriveNumber × Session σ)}
    {fault : Option Fault} (enumerated : Enumerated session reached fault after) :
    after.settings = session.settings := by
  cases enumerated with
  | broken tour => exact tour.settings
  | whole tour _ floppies => exact floppies.settings.trans tour.settings

section Dependable

variable (dependable : Firmware.Dependable kept)

include dependable

theorem recordOf_held (drive : DriveNumber) (held : session.Held kept) :
    Action.Ends (recordOf drive) session
      (fun record after => after.Held kept ∧ record.Sound after.opticalDrive ∧
        after.settings = session.settings)
      (fun _ after => after.Held kept) (fun _ _ => False) := by
  have met : Action.Ends (recordOf drive) session (fun _ after => kept after.channel.firmware)
      (fun _ after => kept after.channel.firmware) (fun _ _ => False) := by
    apply recordOf_of_probe (fun _ _ => held.firmware)
    exact (Geometry.probe_ends (dependable.keeps drive) session.opticalDrive held.firmware).mono
      (fun _ _ found => found.2) (fun _ _ refused => refused.2)
  exact (met.and (recordOf_safe drive held.sound)).mono
    (fun _ _ found => ⟨⟨found.2.1, found.1⟩, found.2.2.2, found.2.2.1⟩)
    (fun _ _ refused => ⟨refused.2.1, refused.1⟩)

theorem transfer_held (drive : DriveNumber) (direction : Direction) (sector count : Nat)
    (held : session.Held kept) :
    Action.Ends (transfer drive direction sector count) session
      (fun moved after => after.Held kept ∧ moved ≤ 127) (fun _ after => after.Held kept)
      (fun _ _ => False) := by
  have moved : Action.Ends (transfer drive direction sector count) session
      (fun _ after => kept after.channel.firmware) (fun _ after => kept after.channel.firmware)
      (fun _ _ => False) := by
    refine ((recordOf_held dependable drive held).mono (fun _ _ met => met)
      (fun _ _ refused => refused.firmware)).bind ?_
    rintro record after ⟨still, known, -⟩
    rw [Action.ends_look_bind, Action.ends_onPart]
    exact dependable.transfer_ends still.sound.valid direction sector count _ known still.firmware
  exact (moved.and (transfer_safe drive direction sector count held.sound)).mono
    (fun _ _ done => ⟨⟨done.2.1, done.1⟩, done.2.2⟩) (fun _ _ refused => ⟨refused.2.1, refused.1⟩)

/-- A read that stays below the greatest 64-bit number does not fault. -/
theorem readUnits_held (device : String) (drive : DriveNumber) (unit sector : Nat)
    (lent : Lent (Session σ)) (held : lent.state.Held kept)
    (near : sector + lent.buffer.length / sectorSize < UInt64.size) :
    Action.Ends (readUnits device drive unit sector) lent (fun _ after => after.state.Held kept)
      (fun _ after => after.state.Held kept) (fun _ _ => False) := by
  generalize size : lent.buffer.length = total
  induction total using Nat.strongRecOn generalizing sector lent with
  | ind total ih =>
    by_cases done : lent.buffer.length / sectorSize = 0
    · exact readUnits_done done held
    · apply readUnits_round done
      refine (transfer_held dependable drive .read _ _ held).mono ?_ (fun _ _ refused => refused)
      rintro moved state ⟨still, few⟩ length same
      have sectors : Staging.sectors = 128 := rfl
      refine ⟨fun _ => still, fun more => ⟨fun far => by omega, fun far => by omega, ?_⟩⟩
      intro _ _
      have present : length ≤ lent.buffer.length / sectorSize := by omega
      have less := length_drop_lt (Nat.pos_of_ne_zero more) present
      refine ih _ (size ▸ less) (sector + length)
        { buffer := lent.buffer.drop (length * sectorSize), state } still ?_ rfl
      have left : (lent.buffer.drop (length * sectorSize)).length / sectorSize =
          lent.buffer.length / sectorSize - length := by
        rw [List.length_drop, Nat.mul_comm, Nat.sub_mul_div]
      dsimp only
      omega

/-- A read of a disk of known size does not fault. -/
theorem read_held {disk : DiskHandle} (sized : disk.totalSectors ≠ unknownTotal) (sector : Nat)
    (lent : Lent (Session σ)) (held : lent.state.Held kept) :
    Action.Ends (read disk sector) lent (fun _ after => after.state.Held kept)
      (fun _ after => after.state.Held kept) (fun _ _ => False) := by
  refine read_of_units (fun _ _ => held) fun drive count _ counted inside => ?_
  refine (recordOf_held dependable drive held).mono ?_ (fun _ _ refused => refused)
  rintro record state ⟨still, -, -⟩
  refine readUnits_held dependable disk.name drive _ sector { lent with state } still ?_
  unfold checkRequest at inside
  rw [if_neg sized] at inside
  split at inside
  · cases inside
  · have whole := sectorCount_ok counted
    dsimp only
    rw [whole, Nat.mul_div_cancel _ (by decide)]
    omega

/-- A drive is met or passed over at its turn, and gets a record if it is met. -/
theorem Turn.held {drive : DriveNumber} {met : Bool} {after : Session σ}
    (turn : Turn drive session met after) (held : session.Held kept)
    (recorded : session.Recorded drives) :
    after.Held kept ∧ after.Recorded (if met then drive :: drives else drives) := by
  have run := recordOf_held dependable drive held
  have keeps := recordOf_keeps (stable_recorded drives) drive recorded
  cases met with
  | true =>
    obtain ⟨record, resolved⟩ := turn.met
    refine ⟨(run.of_ok resolved).1, fun other listed => ?_⟩
    rcases List.mem_cons.mp listed with rfl | old
    · exact ⟨record, ((recordOf_recorded other session).of_ok resolved).1⟩
    · exact keeps.of_ok resolved other old
  | false =>
    obtain ⟨cause, refused⟩ := turn.missed
    exact ⟨run.of_error refused, keeps.of_error refused⟩

/-- No drive puts an end to a tour, and those that were reached have a record behind it. -/
theorem Tour.held {met : List DriveNumber} {before after : Session σ}
    {reached : List (DriveNumber × Session σ)} {fault : Option Fault}
    (tour : Tour met before reached fault after) (held : before.Held kept)
    (recorded : before.Recorded drives) :
    fault = none ∧ after.Held kept ∧ after.Recorded (reached.map Prod.fst ++ drives) := by
  induction tour generalizing drives with
  | done => exact ⟨rfl, held, recorded⟩
  | @reached drive _ _ _ _ further _ turn _ ih =>
    obtain ⟨still, more⟩ := turn.held dependable held recorded
    obtain ⟨faultless, ended, all⟩ := ih still more
    refine ⟨faultless, ended, fun other listed => all other ?_⟩
    rw [List.map_cons, List.cons_append, List.mem_cons, List.mem_append] at listed
    rw [if_pos rfl, List.mem_append, List.mem_cons]
    tauto
  | passed turn _ ih =>
    obtain ⟨still, more⟩ := turn.held dependable held recorded
    exact ih still more
  | @broken drive _ before _ _ unknown faulted =>
    exact ((Geometry.probe_ends (dependable.keeps drive) before.opticalDrive
      held.firmware).of_fault faulted).elim

/-- An enumeration is not cut short, and the drives that it reaches have a record behind it. -/
theorem Enumerated.held {after : Session σ} {reached : List (DriveNumber × Session σ)}
    {fault : Option Fault} (enumerated : Enumerated session reached fault after)
    (held : session.Held kept) :
    fault = none ∧ after.Held kept ∧ after.Recorded (reached.map Prod.fst) := by
  have nothing : session.Recorded [] := fun _ listed => (List.not_mem_nil listed).elim
  cases enumerated with
  | broken tour =>
    have whole := (tour.held dependable held nothing).1
    cases whole
  | @whole first second middle _ _ firmware _ tour counted floppies =>
    obtain ⟨-, still, recorded⟩ := tour.held dependable held nothing
    have asked : Held kept { middle with channel := { middle.channel with firmware } } := by
      refine ⟨still.sound.channel _, ?_⟩
      have answered := dependable.floppyCount _ still.firmware
      rw [counted] at answered
      exact answered
    have known : Recorded (first.map Prod.fst ++ [])
        { middle with channel := { middle.channel with firmware } } := recorded
    obtain ⟨faultless, ended, all⟩ := floppies.held dependable asked known
    refine ⟨faultless, ended, fun drive listed => all drive ?_⟩
    rw [List.map_append, List.mem_append] at listed
    rw [List.append_nil, List.mem_append]
    exact listed.symm

end Dependable

end FirmwareDisk.Session
