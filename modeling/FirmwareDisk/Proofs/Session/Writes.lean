import FirmwareDisk.Proofs.Session.Drives
import FirmwareDisk.Proofs.Session.Pieces
import FirmwareDisk.Proofs.Session.Rounds

set_option autoImplicit false

namespace FirmwareDisk

namespace Session

variable {number : DriveNumber} {drive : Drive}

/-- The first `count` sectors of some bytes were written to a drive, and nothing else was. -/
structure Wrote (number : DriveNumber) (drive : Drive) (sector count : Nat) (bytes : Bytes)
    (before after : Session Machine) : Prop where
  fits : count = 0 ∨ sector + count ≤ BlockDevice.totalSectors drive.medium
  patched : Machine.Patched number (sector * sectorSize) (bytes.take (count * sectorSize))
    before.channel.firmware after.channel.firmware

namespace Wrote

variable {sector : Nat} {bytes : Bytes} {before middle after : Session Machine}

theorem nothing (drive : Drive) (sector : Nat) (bytes : Bytes)
    (idle : Machine.Idle number before.channel.firmware after.channel.firmware) :
    Wrote number drive sector 0 bytes before after where
  fits := Or.inl rfl
  patched := by
    rw [Nat.zero_mul, List.take_zero]
    exact idle _

/-- What was written first lies in front of what was written next. -/
theorem append {held : Drive} {front back : Nat}
    (size : BlockDevice.totalSectors held.medium = BlockDevice.totalSectors drive.medium)
    (present : front * sectorSize ≤ bytes.length)
    (first : Wrote number drive sector front bytes before middle)
    (rest : Wrote number held (sector + front) back (bytes.drop (front * sectorSize)) middle
      after) :
    Wrote number drive sector (front + back) bytes before after where
  fits := by
    have before := first.fits
    have behind := rest.fits
    rw [size] at behind
    omega
  patched := by
    have next := rest.patched
    have length : (bytes.take (front * sectorSize)).length = front * sectorSize := by
      rw [List.length_take, Nat.min_eq_left present]
    rw [Nat.add_mul] at next
    rw [Nat.add_mul, List.take_add]
    refine first.patched.append ?_
    rw [length]
    exact next

theorem in_front {count : Nat} (wrote : Wrote number drive sector count bytes before after)
    (present : count * sectorSize ≤ bytes.length) (later : Bytes) :
    Wrote number drive sector count (bytes ++ later) before after where
  fits := wrote.fits
  patched := by
    rw [List.take_append_of_le_length present]
    exact wrote.patched

/-- What happened to a session before, short of a write, does not matter. -/
theorem after_idle {held : Drive} {count : Nat}
    (idle : Machine.Idle number before.channel.firmware middle.channel.firmware)
    (size : BlockDevice.totalSectors held.medium = BlockDevice.totalSectors drive.medium)
    (wrote : Wrote number held sector count bytes middle after) :
    Wrote number drive sector count bytes before after where
  fits := by
    rw [← size]
    exact wrote.fits
  patched := (idle _).after_nothing wrote.patched

end Wrote

/-- The staged sectors reach the medium, however many transfers they take. -/
theorem writeStaged_ends {remaining sector : Nat} (session : Session Machine)
    (known : session.Knows number drive) (small : sector < UInt64.size)
    (room : remaining ≤ Staging.sectors) :
    Action.Ends (writeStaged number sector remaining) session
      (fun next after => (next = sector + remaining ∧ next < UInt64.size) ∧
        Wrote number drive sector remaining
          (session.channel.staging.data.take (remaining * sectorSize)) session after ∧
        ∃ held, after.Knows number held ∧
          BlockDevice.totalSectors held.medium = BlockDevice.totalSectors drive.medium)
      (fun _ after => ∃ count ≤ remaining, Wrote number drive sector count
        (session.channel.staging.data.take (remaining * sectorSize)) session after)
      (fun _ _ => False) := by
  induction remaining using Nat.strongRecOn generalizing sector session drive with
  | ind remaining ih =>
    by_cases done : remaining = 0
    · subst done
      exact writeStaged_done ⟨⟨rfl, small⟩, .nothing drive sector _ (.refl _ _), drive, known, rfl⟩
    · apply writeStaged_round done
      refine (known.transfer_ends .write small (Nat.pos_of_ne_zero done)).mono ?_ ?_
      · intro moved after result
        obtain ⟨bounds, whole, held, knows, patched⟩ := result
        have inside := whole.inside
        refine ⟨fun far => by omega, fun many => by omega, ?_⟩
        intro next _
        -- What is still to be written has moved to the front of the staging buffer.
        have staged := data_advance after bounds.2 room
        rw [whole.kept rfl] at staged
        have total := patched.totalSectors
        have length := session.channel.staging.length_take_data (Staging.mul_le_byteSize room)
        have present : moved * sectorSize ≤
            (session.channel.staging.data.take (remaining * sectorSize)).length := by
          rw [length]
          exact Nat.mul_le_mul_right sectorSize bounds.2
        have first : Wrote number drive sector moved
            (session.channel.staging.data.take (remaining * sectorSize)) session
            (advance moved (remaining - moved) after) := by
          refine ⟨Or.inr whole.fits, ?_⟩
          rw [List.take_take, Nat.min_eq_left (Nat.mul_le_mul_right sectorSize bounds.2)]
          exact whole.patched
        have moving : (advance moved (remaining - moved) after).Knows number held :=
          ⟨knows.attached, knows.recorded⟩
        have rest := ih (remaining - moved) (by omega)
          (advance moved (remaining - moved) after) moving next (by omega)
        rw [staged] at rest
        refine rest.mono ?_ ?_
        · intro last final result
          obtain ⟨ended, wrote, again, still, same⟩ := result
          have all : moved + (remaining - moved) = remaining := by omega
          have appended := first.append total present wrote
          rw [all] at appended
          exact ⟨by omega, appended, again, still, same.trans total⟩
        · intro cause final result
          obtain ⟨count, less, wrote⟩ := result
          exact ⟨moved + count, by omega, first.append total present wrote⟩
      · intro cause after idle
        exact ⟨0, Nat.zero_le remaining, .nothing drive sector _ idle⟩

/-- The pieces of a buffer reach the medium one behind the other. -/
theorem writePieces_ends {sector : Nat} (pieces : List Bytes) (session : Session Machine)
    (known : session.Knows number drive) (small : sector < UInt64.size)
    (whole : ∀ piece ∈ pieces, ∃ length ≤ Staging.sectors, piece.length = length * sectorSize) :
    Action.Ends (writePieces number sector pieces) session
      (fun _ after => ∃ count, pieces.flatten.length = count * sectorSize ∧
        Wrote number drive sector count pieces.flatten session after)
      (fun _ after => ∃ count, count * sectorSize ≤ pieces.flatten.length ∧
        Wrote number drive sector count pieces.flatten session after)
      (fun _ _ => False) := by
  induction pieces generalizing sector session drive with
  | nil => exact ⟨0, rfl, .nothing drive sector [] (.refl _ _)⟩
  | cons piece rest ih =>
    obtain ⟨sectors, room, length⟩ := whole piece List.mem_cons_self
    rw [writePieces]
    -- Staging touches no medium, so of the drive the same is known as before.
    refine (stage_ends session length room).bind ?_
    intro _ staged same
    have idle : Machine.Idle number session.channel.firmware staged.channel.firmware := by
      rw [same]
      exact .refl number session.channel.firmware
    have still : staged.Knows number drive := by
      rw [same]
      exact ⟨known.attached, known.recorded⟩
    have data : staged.channel.staging.data.take (sectors * sectorSize) = piece := by
      rw [same, ← length]
      exact session.channel.staging.take_fill piece
        (by rw [length]; exact Staging.mul_le_byteSize room)
    have count : piece.length / sectorSize = sectors := by
      rw [length, Nat.mul_div_cancel _ (by decide)]
    rw [count]
    have written := writeStaged_ends staged still small room
    rw [data] at written
    refine (written.mono (fun _ _ done => done) ?_).bind ?_
    · intro cause after result
      obtain ⟨part, less, wrote⟩ := result
      have inside : part * sectorSize ≤ piece.length := by
        rw [length]
        exact Nat.mul_le_mul_right sectorSize less
      refine ⟨part, ?_, (wrote.after_idle idle rfl).in_front inside rest.flatten⟩
      rw [List.flatten_cons, List.length_append]
      omega
    · intro next middle result
      obtain ⟨⟨ended, below⟩, wrote, held, knows, total⟩ := result
      subst ended
      have inside : sectors * sectorSize ≤ piece.length := Nat.le_of_eq length.symm
      have present : sectors * sectorSize ≤ (piece ++ rest.flatten).length := by
        rw [List.length_append]
        omega
      have behind : (piece ++ rest.flatten).drop (sectors * sectorSize) = rest.flatten := by
        rw [← length, List.drop_left]
      -- The rest is written behind this piece, to the drive that the piece was written to.
      have first := (wrote.after_idle idle rfl).in_front inside rest.flatten
      refine (ih middle knows below fun piece member =>
        whole piece (List.mem_cons_of_mem _ member)).mono ?_ ?_
      · intro _ after result
        obtain ⟨part, all, wrote⟩ := result
        rw [← behind] at wrote
        refine ⟨sectors + part, ?_, first.append total present wrote⟩
        rw [List.flatten_cons, List.length_append, length, all, Nat.add_mul]
      · intro cause after result
        obtain ⟨part, less, wrote⟩ := result
        rw [← behind] at wrote
        refine ⟨sectors + part, ?_, first.append total present wrote⟩
        rw [List.flatten_cons, List.length_append, length, Nat.add_mul]
        exact Nat.add_le_add_left less _

/-- However a write to a described drive ends, it has written the first sectors of the bytes, all of
them if it succeeded. -/
theorem Describes.write_ends {disk : DiskHandle} {sector : Nat} {before : Session Machine}
    (bytes : Bytes) (handle : driveBehind disk = .ok number)
    (describes : before.Describes number drive) (small : sector < UInt64.size) :
    Action.Ends (write disk sector bytes) before
      (fun _ after => ∃ count, bytes.length = count * sectorSize ∧
        Wrote number drive sector count bytes before after)
      (fun _ after => ∃ count, count * sectorSize ≤ bytes.length ∧
        Wrote number drive sector count bytes before after)
      (fun _ _ => False) := by
  have untouched {after : Session Machine}
      (idle : Machine.Idle number before.channel.firmware after.channel.firmware) :
      ∃ count, count * sectorSize ≤ bytes.length ∧
        Wrote number drive sector count bytes before after :=
    ⟨0, by simp, .nothing drive sector bytes idle⟩
  apply write_of_pieces
  · intro cause _
    exact untouched (.refl _ _)
  intro same count found counted
  cases handle.symm.trans found
  have whole := sectorCount_ok counted
  refine describes.recordOf_ends.mono ?_ (fun _ _ idle => untouched idle)
  intro record middle result
  obtain ⟨-, idle, known⟩ := result
  refine ⟨fun _ => untouched idle, fun plain => ⟨fun _ _ => untouched idle, fun _ => ?_⟩⟩
  obtain ⟨held, knows, patched⟩ := known plain
  have written := writePieces_ends (writtenPieces bytes) middle knows small
    (fun piece member => writtenPieces_sectors whole member)
  rw [writtenPieces_flatten] at written
  refine written.mono ?_ ?_
  · intro _ after result
    obtain ⟨part, all, wrote⟩ := result
    exact ⟨part, all, wrote.after_idle idle patched.totalSectors⟩
  · intro cause after result
    obtain ⟨part, less, wrote⟩ := result
    exact ⟨part, less, wrote.after_idle idle patched.totalSectors⟩

/-- A write to a drive that its record describes. If it succeeds, the medium has the sectors and
they hold the bytes. If it is refused, the same holds of some first sectors of the request. No other
sector of any drive has changed, and nothing else can happen. -/
theorem write_lands {disk : DiskHandle} {sector : Nat} {before : Session Machine} (bytes : Bytes)
    (handle : driveBehind disk = .ok number) (describes : before.Describes number drive)
    (small : sector < UInt64.size) :
    (∃ after, write disk sector bytes before = (.ok (), after) ∧
      bytes.length % sectorSize = 0 ∧
      (bytes = [] ∨
        sector + bytes.length / sectorSize ≤ BlockDevice.totalSectors drive.medium) ∧
      Machine.Patched number (sector * sectorSize) bytes before.channel.firmware
        after.channel.firmware) ∨
    ∃ cause after count, write disk sector bytes before = (.error cause, after) ∧
      count ≤ bytes.length / sectorSize ∧
      (count = 0 ∨ sector + count ≤ BlockDevice.totalSectors drive.medium) ∧
      Machine.Patched number (sector * sectorSize) (bytes.take (count * sectorSize))
        before.channel.firmware after.channel.firmware := by
  obtain ⟨_, after, run, count, whole, wrote⟩ | ⟨cause, after, run, count, less, wrote⟩ |
    ⟨_, _, _, never⟩ := (Describes.write_ends bytes handle describes small).cases
  · refine Or.inl ⟨after, run, ?_, ?_, ?_⟩
    · rw [whole, Nat.mul_mod_left]
    · rw [whole, Nat.mul_div_cancel _ (by decide)]
      refine wrote.fits.imp_left ?_
      intro zero
      rw [zero, Nat.zero_mul] at whole
      exact List.eq_nil_of_length_eq_zero whole
    · have patched := wrote.patched
      rwa [← whole, List.take_length] at patched
  · exact Or.inr ⟨cause, after, count, run, (Nat.le_div_iff_mul_le (by decide)).mpr less,
      wrote.fits, wrote.patched⟩
  · exact never.elim

/-- Three sectors are written from the one before the bad sector on: that one has its bytes, and the
write is refused. The two sectors before the bad one are written. -/
theorem write_lands_faulty :
    (∃ after, write faultyDisk 1999 (List.replicate 1536 7) spottedSession =
        (.error (.writeFailed "hd0"), after) ∧
      Machine.Patched 0x80 (1999 * sectorSize) (List.replicate 512 7)
        spottedSession.channel.firmware after.channel.firmware) ∧
    ∃ after, write faultyDisk 1998 (List.replicate 1024 7) spottedSession = (.ok (), after) ∧
      Machine.Patched 0x80 (1998 * sectorSize) (List.replicate 1024 7)
        spottedSession.channel.firmware after.channel.firmware := by
  have lands {sector : Nat} (bytes : Bytes) (small : sector < UInt64.size) :=
    write_lands bytes (show driveBehind faultyDisk = .ok 0x80 from rfl) spottedSession_describes
      small
  constructor
  · have refused : (write faultyDisk 1999 (List.replicate 1536 7) spottedSession).1 =
        .error (.writeFailed "hd0") := by decide +kernel
    have left : (((write faultyDisk 1999 (List.replicate 1536 7)
        spottedSession).2.channel.firmware.drive? 0x80).map fun drive =>
          (drive.medium.flat (1999 * 512), drive.medium.flat (2000 * 512))) = some (7, 0) := by
      decide +kernel
    obtain ⟨_, run, -⟩ | ⟨cause, after, count, run, few, -, patched⟩ :=
      lands (List.replicate 1536 7) (show 1999 < UInt64.size by decide)
    · rw [run] at refused
      cases refused
    · rw [run] at refused left
      cases refused
      -- Only with one sector written are there sevens in it and none in the next.
      obtain ⟨written, found, changed⟩ := patched.there spottedDrive spottedSession_describes.attached
      rw [found, Option.map_some, changed.flat] at left
      have one : count = 1 := by
        simp only [List.length_replicate, sectorSize] at few
        have cases : count = 0 ∨ count = 1 ∨ count = 2 ∨ count = 3 := by omega
        rcases cases with rfl | rfl | rfl | rfl
        · exact absurd left (by decide +kernel)
        · rfl
        · exact absurd left (by decide +kernel)
        · exact absurd left (by decide +kernel)
      have first : (List.replicate 1536 (7 : UInt8)).take (1 * sectorSize) = List.replicate 512 7 :=
        List.take_replicate
      rw [one, first] at patched
      exact ⟨after, run, patched⟩
  · have granted : (write faultyDisk 1998 (List.replicate 1024 7) spottedSession).1 = .ok () := by
      decide +kernel
    obtain ⟨after, run, -, -, patched⟩ | ⟨_, _, _, run, -⟩ :=
      lands (List.replicate 1024 7) (show 1998 < UInt64.size by decide)
    · exact ⟨after, run, patched⟩
    · rw [run] at granted
      cases granted

end Session

end FirmwareDisk
