import FirmwareDisk.Session.Disk
import FirmwareDisk.Proofs.Staging

set_option autoImplicit false

namespace FirmwareDisk

theorem Bytes.flatten_pieces {size count : Nat} {bytes : Bytes}
    (covered : bytes.length ≤ count * size) : (pieces size count bytes).flatten = bytes := by
  induction count generalizing bytes with
  | zero =>
    rw [Nat.zero_mul, Nat.le_zero, List.length_eq_zero_iff] at covered
    rw [covered]
    rfl
  | succ count ih =>
    have rest : (bytes.drop size).length ≤ count * size := by
      rw [List.length_drop]
      rw [Nat.succ_mul] at covered
      omega
    rw [pieces, List.flatten_cons, ih rest, List.take_append_drop]

/-- The pieces of whole sectors are whole sectors, if each piece has room for so many. -/
theorem Bytes.pieces_sectors {sectors total count : Nat} {bytes piece : Bytes}
    (whole : bytes.length = total * sectorSize)
    (member : piece ∈ pieces (sectors * sectorSize) count bytes) :
    ∃ length ≤ sectors, piece.length = length * sectorSize := by
  induction count generalizing total bytes with
  | zero => cases member
  | succ count ih =>
    rw [pieces] at member
    rcases List.mem_cons.mp member with first | later
    · refine ⟨min sectors total, Nat.min_le_left _ _, ?_⟩
      rw [first, List.length_take, whole, Nat.mul_min_mul_right]
    · have rest : (bytes.drop (sectors * sectorSize)).length = (total - sectors) * sectorSize := by
        rw [List.length_drop, whole, Nat.sub_mul]
      exact ih rest later

namespace Session

theorem writtenPieces_flatten (bytes : Bytes) : (writtenPieces bytes).flatten = bytes := by
  apply Bytes.flatten_pieces
  have size : Geometry.longestTransfer * sectorSize = 65024 := rfl
  rw [size]
  omega

theorem writtenPieces_sectors {bytes piece : Bytes} {count : Nat}
    (whole : bytes.length = count * sectorSize) (member : piece ∈ writtenPieces bytes) :
    ∃ length ≤ Staging.sectors, piece.length = length * sectorSize := by
  obtain ⟨length, short, same⟩ := Bytes.pieces_sectors whole member
  exact ⟨length, Nat.le_succ_of_le short, same⟩

/-- The first piece is as long as the request and the longest transfer allow. -/
theorem writtenPieces_cons {bytes : Bytes} {count : Nat} (wanted : 0 < count)
    (whole : bytes.length = count * sectorSize) :
    ∃ piece rest, writtenPieces bytes = piece :: rest ∧
      piece.length = min count Geometry.longestTransfer * sectorSize := by
  have size : Geometry.longestTransfer * sectorSize = 65024 := rfl
  have sector : sectorSize = 512 := rfl
  have pieces : ∃ others, (bytes.length + (65024 - 1)) / 65024 = others + 1 := by
    refine ⟨(bytes.length + (65024 - 1)) / 65024 - 1, ?_⟩
    rw [sector] at whole
    omega
  obtain ⟨others, number⟩ := pieces
  refine ⟨bytes.take 65024, Bytes.pieces 65024 others (bytes.drop 65024), ?_, ?_⟩
  · rw [writtenPieces, size, number]
    rfl
  · rw [List.length_take, ← size, whole, Nat.mul_min_mul_right, Nat.min_comm]

theorem stage_eq {σ : Type} {count : Nat} {piece : Bytes} (session : Session σ)
    (length : piece.length = count * sectorSize) (room : count ≤ Staging.sectors) :
    stage piece session = (.ok (), { session with
      channel := { session.channel with staging := session.channel.staging.fill 0 piece } }) := by
  have checked := Staging.checkRegion_of_le room
  rw [← length] at checked
  simp only [stage, Staging.put, checked]
  rfl

theorem stage_ends {σ : Type} {count : Nat} {piece : Bytes} (session : Session σ)
    (length : piece.length = count * sectorSize) (room : count ≤ Staging.sectors)
    {refuses : DiskError → Session σ → Prop} {faults : Fault → Session σ → Prop} :
    Action.Ends (stage piece) session
      (fun _ after => after = { session with
          channel := { session.channel with staging := session.channel.staging.fill 0 piece } })
      refuses faults := by
  unfold Action.Ends
  rw [stage_eq session length room]

/-- Moving the staged sectors down leaves the rest of them at the start of the buffer. -/
theorem data_advance {σ : Type} (session : Session σ) {moved remaining : Nat}
    (less : moved ≤ remaining) (room : remaining ≤ Staging.sectors) :
    (advance moved (remaining - moved) session).channel.staging.data.take
        ((remaining - moved) * sectorSize) =
      (session.channel.staging.data.take (remaining * sectorSize)).drop (moved * sectorSize) := by
  have size := session.channel.staging.length_data
  have whole := Staging.mul_le_byteSize room
  have below : moved * sectorSize ≤ remaining * sectorSize := Nat.mul_le_mul_right sectorSize less
  have length : (Bytes.slice session.channel.staging.data (moved * sectorSize)
      ((remaining - moved) * sectorSize)).length = (remaining - moved) * sectorSize := by
    simp only [Bytes.slice, List.length_take, List.length_drop, size, Nat.sub_mul]
    omega
  have found := session.channel.staging.take_fill
    (Bytes.slice session.channel.staging.data (moved * sectorSize)
      ((remaining - moved) * sectorSize))
    (by rw [length, Nat.sub_mul]; omega)
  rw [length] at found
  rw [advance]
  dsimp only
  rw [found, Bytes.slice, List.drop_take, Nat.sub_mul]

end Session

end FirmwareDisk
