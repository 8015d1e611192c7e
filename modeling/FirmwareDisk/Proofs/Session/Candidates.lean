import FirmwareDisk.Proofs.Session.Caching
import Mathlib.Data.List.Nodup

set_option autoImplicit false

namespace FirmwareDisk

theorem DriveNumber.name_injective {one other : DriveNumber} (same : one.name = other.name) :
    one = other := by
  have found := (ofName_name one).1
  rw [same, (ofName_name other).1] at found
  exact (Except.ok.inj found).symm

namespace Session

def namesOf (bootDrive drive : DriveNumber) : List String :=
  drive.name :: if drive = bootDrive then [bootName] else []

theorem mem_namesOf {bootDrive drive : DriveNumber} {name : String} :
    name ∈ namesOf bootDrive drive ↔ name = drive.name ∨ drive = bootDrive ∧ name = bootName := by
  unfold namesOf
  split
  · rename_i boot
    simp only [List.mem_cons, List.not_mem_nil, or_false, boot, true_and]
  · rename_i other
    simp only [List.mem_cons, List.not_mem_nil, or_false, other, false_and]

theorem nodup_namesOf (bootDrive drive : DriveNumber) : (namesOf bootDrive drive).Nodup := by
  unfold namesOf
  split
  · refine List.nodup_cons.mpr ⟨?_, List.nodup_singleton _⟩
    rw [List.mem_singleton]
    exact (DriveNumber.ofName_name drive).2
  · exact List.nodup_singleton _

theorem disjoint_namesOf {bootDrive one other : DriveNumber} (apart : one ≠ other) :
    (namesOf bootDrive one).Disjoint (namesOf bootDrive other) := by
  intro name first second
  rw [mem_namesOf] at first second
  obtain same | ⟨boot, same⟩ := first
  · obtain spelled | ⟨-, spelled⟩ := second
    · exact apart (DriveNumber.name_injective (same.symm.trans spelled))
    · exact (DriveNumber.ofName_name one).2 (same.symm.trans spelled)
  · obtain spelled | ⟨again, -⟩ := second
    · exact (DriveNumber.ofName_name other).2 (spelled.symm.trans same)
    · exact apart (boot.trans again.symm)

theorem nodup_names {bootDrive : DriveNumber} {drives : List DriveNumber} (once : drives.Nodup) :
    (drives.flatMap (namesOf bootDrive)).Nodup :=
  List.nodup_flatMap.mpr ⟨fun drive _ => nodup_namesOf bootDrive drive,
    once.imp fun apart => disjoint_namesOf apart⟩

theorem fixedDrives_toNat {settings : Settings} (valid : settings.check = .ok ()) :
    settings.fixedDrives.map UInt8.toNat = List.range' 0x80 settings.fixedDiskCount := by
  obtain ⟨⟨-, few⟩, -⟩ := Settings.check_ok valid
  rw [Settings.fixedDrives, List.map_map, List.range'_eq_map_range]
  apply List.map_congr_left
  intro index member
  have below := List.mem_range.mp member
  simp only [Function.comp_apply, DriveNumber.firstFixed, UInt8.toNat_ofNat']
  omega

variable {σ : Type}

/-- The optical drive is looked at after the fixed disks, if its number is behind theirs. -/
theorem fixedAndOptical_toNat {session : Session σ} (valid : session.settings.check = .ok ()) :
    session.fixedAndOptical.map UInt8.toNat =
      List.range' 0x80 session.settings.fixedDiskCount ++
        (session.opticalDrive.toList.map UInt8.toNat).filter
          (0x80 + session.settings.fixedDiskCount ≤ ·) := by
  rw [fixedAndOptical, List.map_append, fixedDrives_toNat valid]
  congr 1
  cases session.opticalDrive with
  | none => rfl
  | some drive =>
    by_cases behind : 0x80 + session.settings.fixedDiskCount ≤ drive.toNat
    · simp only [Option.filter_some, Settings.isBeyondFixed, DriveNumber.firstFixed, behind,
        decide_true, ↓reduceIte, Option.toList_some, List.map_cons, List.map_nil,
        List.filter_cons, List.filter_nil]
    · simp only [Option.filter_some, Settings.isBeyondFixed, DriveNumber.firstFixed, behind,
        decide_false, Bool.false_eq_true, ↓reduceIte, Option.toList_none, Option.toList_some,
        List.map_cons, List.map_nil, List.filter_cons, List.filter_nil]

theorem floppyDrives_toNat (bootDrive : DriveNumber) (count : UInt8) :
    (floppyDrives bootDrive count).map UInt8.toNat =
      List.range (min 0x80 (if bootDrive = 0 ∧ count = 0 then 1 else count.toNat)) := by
  rw [floppyDrives, List.map_map, Nat.min_comm]
  refine (List.map_congr_left ?_).trans (List.map_id _)
  intro index member
  have below := List.mem_range.mp member
  simp only [DriveNumber.firstFixed] at below
  simp only [Function.comp_apply, UInt8.toNat_ofNat', id_eq]
  omega

/-- No drive is looked at twice. -/
theorem nodup_candidates {session : Session σ} (valid : session.settings.check = .ok ())
    (bootDrive : DriveNumber) (count : UInt8) :
    (session.fixedAndOptical ++ floppyDrives bootDrive count).Nodup := by
  apply List.Nodup.of_map UInt8.toNat
  rw [List.map_append, fixedAndOptical_toNat valid, floppyDrives_toNat]
  have alone : (session.opticalDrive.toList.map UInt8.toNat).Nodup := by
    cases session.opticalDrive with
    | none => exact List.nodup_nil
    | some drive => exact List.nodup_singleton _
  refine List.nodup_append'.mpr ⟨List.nodup_append'.mpr ⟨List.nodup_range', alone.filter _, ?_⟩,
    List.nodup_range, ?_⟩
  · intro number fixed optical
    have inside := List.mem_range'_1.mp fixed
    have behind := of_decide_eq_true (List.mem_filter.mp optical).2
    omega
  · intro number high low
    have below := List.mem_range.mp low
    rcases List.mem_append.mp high with fixed | optical
    · have inside := List.mem_range'_1.mp fixed
      omega
    · have behind := of_decide_eq_true (List.mem_filter.mp optical).2
      omega

end Session

end FirmwareDisk
