import FirmwareDisk.Proofs.Machine.Overflow
import FirmwareDisk.Proofs.Machine.Queries
import FirmwareDisk.Proofs.Transfer.Dependable

set_option autoImplicit false

namespace FirmwareDisk.Machine

/-- By the geometries that they report, the drives have fewer than 2 ^ 64 sectors each. -/
def Countable (machine : Machine) : Prop :=
  ∀ number drive, machine.drive? number = some drive →
    drive.legacy.cylinders * drive.legacy.heads * drive.legacy.sectors < UInt64.size

namespace Countable

variable {machine after : Machine} {number : DriveNumber}

theorem none_attached : Countable {} := by
  intro number drive attached
  rw [drive?, Std.TreeMap.getElem?_emptyc] at attached
  cases attached

theorem attach (countable : machine.Countable) {drive : Drive}
    (few : drive.legacy.cylinders * drive.legacy.heads * drive.legacy.sectors < UInt64.size) :
    (machine.attach number drive).Countable := by
  intro other held attached
  rw [drive?_attach] at attached
  split at attached
  · cases attached
    exact few
  · exact countable other held attached

/-- A drive that is written keeps its geometry. -/
theorem patched (countable : machine.Countable) {start : Nat} {bytes : Bytes}
    (patched : Patched number start bytes machine after) : after.Countable := by
  intro other held attached
  by_cases apart : other = number
  · subst apart
    cases before : machine.drive? other with
    | none =>
      rw [patched.absent before] at attached
      cases attached
    | some drive =>
      obtain ⟨written, found, changed⟩ := patched.there drive before
      cases attached.symm.trans found
      rw [changed.legacy]
      exact countable other drive before
  · rw [patched.others other apart] at attached
    exact countable other held attached

theorem idle (countable : machine.Countable) (idle : Idle number machine after) :
    after.Countable :=
  countable.patched (idle 0)

end Countable

/-- The services of such a machine do not fault, and it stays one. -/
theorem dependable : Firmware.Dependable Countable where
  chsTransfer direction drive address count lent countable := by
    have decided := @chsTransfer_decides drive direction address count lent
    refine .intro ?_ (fun _ _ run => countable.idle (decided.of_error run).idle) ?_
    · intro _ _ run
      obtain ⟨_, _, -, moved⟩ := decided.of_ok run
      exact countable.patched moved.patched
    · intro _ _ run
      obtain ⟨held, attached, overruns⟩ := decided.of_fault run
      exact Nat.not_le.mpr (countable drive held attached) overruns.geometry
  blockTransfer direction drive packet lent countable := by
    refine (blockTransfer_ends direction packet lent).mono ?_
      (fun _ _ refused => countable.idle refused.idle)
    rintro _ _ ⟨_, moved⟩
    exact countable.patched moved.patched
  extensionsVersion _ _ countable := countable
  extendedParameters drive lent countable :=
    (@extendedParameters_ends drive lent).mono (fun _ _ idle => countable.idle idle)
      (fun _ _ idle => countable.idle idle)
  legacyParameters drive machine countable :=
    (@legacyParameters_ends drive machine).mono (fun _ _ idle => countable.idle idle)
      (fun _ _ idle => countable.idle idle)
  floppyCount _ countable := countable
  reset _ _ countable := countable

end FirmwareDisk.Machine
