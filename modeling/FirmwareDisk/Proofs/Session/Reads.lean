import FirmwareDisk.Proofs.Session.Drives
import FirmwareDisk.Proofs.Session.Rounds

set_option autoImplicit false

namespace FirmwareDisk.Session

variable {number : DriveNumber} {drive : Drive}

/-- A buffer whose first `count` sectors were read, and whose rest is as it was. -/
structure Filled (drive : Drive) (sector count : Nat) (before after : Bytes) : Prop where
  fits : count = 0 ∨ sector + count ≤ BlockDevice.totalSectors drive.medium
  bytes : after = drive.medium.flat.slice (sector * sectorSize) (count * sectorSize) ++
    before.drop (count * sectorSize)

theorem Filled.nothing (drive : Drive) (sector : Nat) (buffer : Bytes) :
    Filled drive sector 0 buffer buffer where
  fits := Or.inl rfl
  bytes := by simp [Flat.slice]

theorem Filled.of_medium {held : Drive} {sector count : Nat} {before after : Bytes}
    (filled : Filled held sector count before after) (same : held.medium = drive.medium) :
    Filled drive sector count before after where
  fits := same ▸ filled.fits
  bytes := same ▸ filled.bytes

/-- What was read first stands in front of what was read next. -/
theorem Filled.append {held : Drive} {sector front back : Nat} {buffer after : Bytes}
    (flat : held.medium.flat = drive.medium.flat)
    (size : BlockDevice.totalSectors held.medium = BlockDevice.totalSectors drive.medium)
    (fits : sector + front ≤ BlockDevice.totalSectors drive.medium)
    (filled : Filled held (sector + front) back (buffer.drop (front * sectorSize)) after) :
    Filled drive sector (front + back) buffer
      (drive.medium.flat.slice (sector * sectorSize) (front * sectorSize) ++ after) where
  fits := by
    have rest := filled.fits
    rw [size] at rest
    omega
  bytes := by
    rw [filled.bytes, flat, Nat.add_mul front, Flat.slice_add, Nat.add_mul sector, List.drop_drop,
      List.append_assoc]

theorem readUnits_ends (device : String) {remaining sector : Nat} (lent : Lent (Session Machine))
    (known : lent.state.Knows number drive) (small : sector < UInt64.size)
    (whole : lent.buffer.length = remaining * sectorSize) :
    Action.Ends (readUnits device number 1 sector) lent
      (fun _ after => Filled drive sector remaining lent.buffer after.buffer ∧
        Machine.Idle number lent.state.channel.firmware after.state.channel.firmware)
      (fun _ after => ∃ count ≤ remaining, Filled drive sector count lent.buffer after.buffer ∧
        Machine.Idle number lent.state.channel.firmware after.state.channel.firmware)
      (fun _ _ => False) := by
  induction remaining using Nat.strongRecOn generalizing sector lent drive with
  | ind remaining ih =>
    have size : lent.buffer.length / sectorSize = remaining := by
      rw [whole, Nat.mul_div_cancel _ (by decide)]
    by_cases done : remaining = 0
    · subst done
      exact readUnits_done size ⟨.nothing drive sector lent.buffer, .refl _ _⟩
    · apply readUnits_round (by rwa [size])
      simp only [size, Nat.mod_one, Nat.sub_zero, Nat.zero_add, Nat.sub_self, Nat.add_zero,
        Nat.div_one, Nat.mul_one, Nat.zero_mul, Bytes.slice, List.drop_zero]
      refine (known.transfer_ends .read small (Nat.pos_of_ne_zero done)).mono ?_ ?_
      · intro moved state result length same
        obtain ⟨bounds, whole, held, knows, patched⟩ := result
        have all : length = moved := by omega
        subst all
        have room := whole.room
        have inside := whole.inside
        have idle : Machine.Idle number lent.state.channel.firmware state.channel.firmware :=
          fun start => whole.patched.anywhere start
        refine ⟨fun nothing => by omega, fun _ => ⟨fun far => by omega, fun far => by omega, ?_⟩⟩
        intro _ next
        -- The transfer wrote nothing, so the rest comes from the same bytes.
        have flat : held.medium.flat = drive.medium.flat := by
          rw [patched.flat]
          exact Flat.patch_nil _ _
        rw [whole.data rfl]
        refine (ih (remaining - length) (by omega)
          { buffer := lent.buffer.drop (length * sectorSize), state } knows next ?_).mono ?_ ?_
        · simp only [List.length_drop, Nat.sub_mul]
          omega
        · intro _ after rest
          obtain ⟨filled, more⟩ := rest
          have total : length + (remaining - length) = remaining := by omega
          have appended := filled.append flat patched.totalSectors whole.fits
          rw [total] at appended
          exact ⟨appended, idle.trans more⟩
        · intro _ after rest
          obtain ⟨count, less, filled, more⟩ := rest
          exact ⟨length + count, by omega,
            filled.append flat patched.totalSectors whole.fits, idle.trans more⟩
      · intro cause state idle
        exact ⟨0, Nat.zero_le remaining, .nothing drive sector lent.buffer, idle⟩

/-- However a read of a described drive ends, the buffer begins with bytes of the medium, is
otherwise as it was, and no medium has changed. -/
theorem Describes.read_ends {disk : DiskHandle} {sector : Nat} {lent : Lent (Session Machine)}
    (handle : driveBehind disk = .ok number) (describes : lent.state.Describes number drive)
    (plain : ∀ record after, recordOf number lent.state = (.ok record, after) →
      record.optical = false)
    (small : sector < UInt64.size) :
    Action.Ends (read disk sector) lent
      (fun _ after => ∃ count, lent.buffer.length = count * sectorSize ∧
        Filled drive sector count lent.buffer after.buffer ∧
        Machine.Idle number lent.state.channel.firmware after.state.channel.firmware)
      (fun _ after => ∃ count, count * sectorSize ≤ lent.buffer.length ∧
        Filled drive sector count lent.buffer after.buffer ∧
        Machine.Idle number lent.state.channel.firmware after.state.channel.firmware)
      (fun _ _ => False) := by
  have untouched {after : Lent (Session Machine)} (buffer : after.buffer = lent.buffer)
      (idle : Machine.Idle number lent.state.channel.firmware after.state.channel.firmware) :
      ∃ count, count * sectorSize ≤ lent.buffer.length ∧
        Filled drive sector count lent.buffer after.buffer ∧
        Machine.Idle number lent.state.channel.firmware after.state.channel.firmware := by
    refine ⟨0, by simp, ?_, idle⟩
    rw [buffer]
    exact .nothing drive sector lent.buffer
  apply read_of_units
  · intro cause _
    exact untouched rfl (.refl _ _)
  intro same count found counted _
  cases handle.symm.trans found
  have length := sectorCount_ok counted
  refine describes.recordOf_ends.mono ?_ ?_
  · intro record after result
    obtain ⟨run, idle, known⟩ := result
    have notOptical := plain record after run
    obtain ⟨held, knows, patched⟩ := known notOptical
    have flat : held.medium = drive.medium := patched.untouched rfl
    rw [readUnit, notOptical]
    refine (readUnits_ends disk.name { lent with state := after } knows small length).mono ?_ ?_
    · intro _ last rest
      obtain ⟨filled, more⟩ := rest
      exact ⟨count, length, filled.of_medium flat, idle.trans more⟩
    · intro _ last rest
      obtain ⟨read, less, filled, more⟩ := rest
      refine ⟨read, ?_, filled.of_medium flat, idle.trans more⟩
      rw [length]
      exact Nat.mul_le_mul_right sectorSize less
  · intro cause after idle
    exact untouched rfl idle

/-- A read from a drive that its record describes. If it succeeds, the medium has the sectors and
the buffer holds their bytes. If it is refused, the same holds of some first sectors of the request,
and the rest of the buffer is as it was. No medium has changed, and nothing else can happen. -/
theorem read_returns_medium {disk : DiskHandle} {sector : Nat} (lent : Lent (Session Machine))
    (handle : driveBehind disk = .ok number) (describes : lent.state.Describes number drive)
    (plain : ∀ record after, recordOf number lent.state = (.ok record, after) →
      record.optical = false)
    (small : sector < UInt64.size) :
    ∃ outcome after, read disk sector lent = (outcome, after) ∧
      (∀ other, (after.state.channel.firmware.drive? other).map Drive.medium =
        (lent.state.channel.firmware.drive? other).map Drive.medium) ∧
      ((outcome = .ok () ∧ lent.buffer.length % sectorSize = 0 ∧
          (lent.buffer = [] ∨
            sector + lent.buffer.length / sectorSize ≤ BlockDevice.totalSectors drive.medium) ∧
          after.buffer = drive.medium.flat.slice (sector * sectorSize) lent.buffer.length) ∨
        ∃ cause count, outcome = .error cause ∧ count ≤ lent.buffer.length / sectorSize ∧
          (count = 0 ∨ sector + count ≤ BlockDevice.totalSectors drive.medium) ∧
          after.buffer = drive.medium.flat.slice (sector * sectorSize) (count * sectorSize) ++
            lent.buffer.drop (count * sectorSize)) := by
  obtain ⟨_, after, run, count, whole, filled, idle⟩ |
    ⟨cause, after, run, count, less, filled, idle⟩ | ⟨_, _, _, never⟩ :=
    (Describes.read_ends handle describes plain small).cases
  · refine ⟨_, after, run, idle.media, Or.inl ⟨rfl, ?_, ?_, ?_⟩⟩
    · rw [whole, Nat.mul_mod_left]
    · rw [whole, Nat.mul_div_cancel _ (by decide)]
      refine filled.fits.imp_left ?_
      intro zero
      rw [zero, Nat.zero_mul] at whole
      exact List.eq_nil_of_length_eq_zero whole
    · rw [filled.bytes, ← whole, List.drop_length, List.append_nil]
  · exact ⟨_, after, run, idle.media, Or.inr ⟨cause, count, rfl,
      (Nat.le_div_iff_mul_le (by decide)).mpr less, filled.fits, filled.bytes⟩⟩
  · exact never.elim

/-- Three sectors are read from the one before the bad sector on into a buffer of threes: that one is
there, and the read is refused. The two sectors before the bad one are read. -/
theorem read_returns_medium_faulty :
    (∃ after, read faultyDisk 1999 { buffer := List.replicate 1536 3, state := spottedSession } =
        (.error (.readFailed "hd0"), after) ∧
      after.buffer = spottedDrive.medium.flat.slice (1999 * sectorSize) sectorSize ++
        List.replicate 1024 3) ∧
    ∃ after, read faultyDisk 1998 { buffer := List.replicate 1024 3, state := spottedSession } =
        (.ok (), after) ∧
      after.buffer = spottedDrive.medium.flat.slice (1998 * sectorSize) 1024 := by
  have plain (record : Geometry) (after : Session Machine)
      (run : recordOf 0x80 spottedSession = (.ok record, after)) : record.optical = false := by
    rw [recordOf_cached rfl] at run
    cases run
    rfl
  have returns {sector : Nat} (buffer : Bytes) (small : sector < UInt64.size) :=
    read_returns_medium { buffer, state := spottedSession }
      (show driveBehind faultyDisk = .ok 0x80 from rfl) spottedSession_describes plain small
  constructor
  · have refused : (read faultyDisk 1999
        { buffer := List.replicate 1536 3, state := spottedSession }).1 =
          .error (.readFailed "hd0") := by decide +kernel
    have left : (Bytes.byte (read faultyDisk 1999
          { buffer := List.replicate 1536 3, state := spottedSession }).2.buffer 0,
        Bytes.byte (read faultyDisk 1999
          { buffer := List.replicate 1536 3, state := spottedSession }).2.buffer 512) = (9, 3) := by
      decide +kernel
    obtain ⟨_, after, run, -, ⟨rfl, -⟩ | ⟨cause, count, rfl, few, -, buffer⟩⟩ :=
      returns (List.replicate 1536 3) (show 1999 < UInt64.size by decide)
    · rw [run] at refused
      cases refused
    · rw [run] at refused left
      cases refused
      -- Only with one sector read is there a nine at its start and a three at the next one's.
      rw [buffer] at left
      have one : count = 1 := by
        simp only [List.length_replicate, sectorSize] at few
        have cases : count = 0 ∨ count = 1 ∨ count = 2 ∨ count = 3 := by omega
        rcases cases with rfl | rfl | rfl | rfl
        · exact absurd left (by decide +kernel)
        · rfl
        · exact absurd left (by decide +kernel)
        · exact absurd left (by decide +kernel)
      have rest : (List.replicate 1536 (3 : UInt8)).drop (1 * sectorSize) =
          List.replicate 1024 3 := List.drop_replicate
      rw [one, rest, Nat.one_mul] at buffer
      exact ⟨after, run, buffer⟩
  · have granted : (read faultyDisk 1998
        { buffer := List.replicate 1024 3, state := spottedSession }).1 = .ok () := by
      decide +kernel
    obtain ⟨_, after, run, -, ⟨rfl, -, -, buffer⟩ | ⟨_, _, rfl, -⟩⟩ :=
      returns (List.replicate 1024 3) (show 1998 < UInt64.size by decide)
    · rw [List.length_replicate] at buffer
      exact ⟨after, run, buffer⟩
    · rw [run] at granted
      cases granted

end FirmwareDisk.Session
