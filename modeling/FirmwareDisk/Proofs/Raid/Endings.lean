import FirmwareDisk.Proofs.BlockDevice
import FirmwareDisk.Proofs.Raid.Detection

set_option autoImplicit false

namespace FirmwareDisk

namespace BlockDevice

variable {δ : Type} [BlockDevice δ] {kept : δ → Prop}

/-- A device, in any of the states that it is kept in, whose reads of whole sectors do not fault. -/
def Answers (kept : δ → Prop) : Prop :=
  ∀ sector count device, kept device →
    Action.Ends (read sector) { buffer := Bytes.zeros (count * sectorSize), state := device }
      (fun _ after => kept after.state) (fun _ after => kept after.state) (fun _ _ => False)

theorem Answers.fetch_ends (answers : Answers kept) {device : δ} (start : kept device)
    (sector offset : Nat) {length : Nat} (filled : 0 < length) :
    Action.Ends (fetch sector offset length) device (fun _ after => kept after)
      (fun _ after => kept after) (fun _ _ => False) :=
  fetch_of_read filled (fun _ => start) fun _ => answers _ _ device start

end BlockDevice

namespace Raid

-- A read is never computed here, however long its buffer is.
attribute [local irreducible] BlockDevice.fetch

variable {δ : Type} [BlockDevice δ] {kept : δ → Prop} (answers : BlockDevice.Answers kept)

include answers

theorem searchV1_ends (listed : List Nat) (best : Option Superblock1) {device : δ}
    (start : kept device) :
    Action.Ends (searchV1 listed best) device (fun _ after => kept after)
      (fun _ after => kept after) (fun _ _ => False) := by
  induction listed generalizing best device with
  | nil => exact start
  | cons place rest ih =>
    rw [searchV1_cons]
    refine Action.Ends.bind (Action.Ends.mapError (answers.fetch_ends start place 0 (by decide)))
      fun raw after still => ih _ still

theorem readV090_ends (size : Nat) {device : δ} (start : kept device) :
    Action.Ends (readV090 size) device (fun _ after => kept after) (fun _ after => kept after)
      (fun _ _ => False) := by
  unfold readV090
  cases reservedStart? size with
  | none => exact start
  | some sector =>
    refine Action.Ends.bind (Action.Ends.mapError (answers.fetch_ends start sector 0 (by decide)))
      fun raw after still => ?_
    cases interpretV090 raw sector with
    | ok member => exact still
    | error cause => exact still

omit answers in
/-- Detection on a device that answers comes to an end. One of unknown size is not even read. -/
theorem detect_ends {device : δ}
    (answers : BlockDevice.totalSectors device ≠ unknownTotal → BlockDevice.Answers kept)
    (start : kept device) :
    Action.Ends detect device (fun _ after => kept after) (fun _ after => kept after)
      (fun _ _ => False) := by
  by_cases known : BlockDevice.totalSectors device = unknownTotal
  · rw [detect, Action.ends_look_bind, if_pos known]
    exact start
  · refine Action.Ends.of_run (detect_eq known) ?_
    refine (searchV1_ends (answers known) _ none start).bind fun best after still => ?_
    cases best with
    | some superblock => exact still
    | none => exact readV090_ends (answers known) _ still

end Raid

end FirmwareDisk
