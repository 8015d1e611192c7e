import FirmwareDisk.Proofs.Medium.Requests
import FirmwareDisk.Proofs.Session.Pieces
import FirmwareDisk.Proofs.Session.Rounds

set_option autoImplicit false

namespace FirmwareDisk.Session

variable {σ : Type} [Firmware σ]

/-- What the transfers of a request up to `stop` keep: `ready` holds of the session at each sector
that one of them begins or ends with. It has nothing to do with the staging buffer. -/
structure Carries (drive : DriveNumber) (direction : Direction) (stop : Nat)
    (ready : Nat → Session σ → Prop) (refuses : DiskError → Session σ → Prop)
    (faults : Fault → Session σ → Prop) : Prop where
  transfer (sector count : Nat) (session : Session σ) : ready sector session →
    sector < UInt64.size → 0 < count → sector + count ≤ stop →
    Action.Ends (Session.transfer drive direction sector count) session
      (fun moved after => moved ≤ Staging.sectors ∧ ready (sector + moved) after) refuses faults
  overflow (sector : Nat) (session : Session σ) : ready sector session →
    UInt64.size ≤ sector → faults .overflow session
  staged (sector : Nat) (session : Session σ) (staging : Staging) : ready sector session →
    ready sector { session with channel := { session.channel with staging } }

namespace Carries

variable {drive : DriveNumber} {direction : Direction} {stop : Nat}
  {ready : Nat → Session σ → Prop} {refuses : DiskError → Session σ → Prop}
  {faults : Fault → Session σ → Prop}

/-- A read whose first transfer ends well carries on from there. -/
theorem readUnits_from (carries : Carries drive .read stop ready refuses faults) (device : String)
    {remaining sector : Nat} (lent : Lent (Session σ)) (wanted : 0 < remaining)
    (whole : lent.buffer.length = remaining * sectorSize) (inside : sector + remaining ≤ stop)
    (first : Action.Ends (Session.transfer drive .read sector remaining) lent.state
      (fun moved after => moved ≤ Staging.sectors ∧ ready (sector + moved) after) refuses faults) :
    Action.Ends (readUnits device drive 1 sector) lent
      (fun _ after => ready (sector + remaining) after.state)
      (fun cause after => refuses cause after.state)
      (fun reason after => faults reason after.state) := by
  induction remaining using Nat.strongRecOn generalizing sector lent with
  | ind remaining ih =>
    have size : lent.buffer.length / sectorSize = remaining := by
      rw [whole, Nat.mul_div_cancel _ (by decide)]
    apply readUnits_round (by omega)
    simp only [size, Nat.mod_one, Nat.sub_zero, Nat.zero_add, Nat.sub_self, Nat.add_zero,
      Nat.div_one, Nat.mul_one]
    refine first.with_run.mono ?_ (fun _ _ refused => refused)
    intro moved state result length same
    obtain ⟨run, room, next⟩ := result
    have bounds := transfer_moved wanted run
    have all : length = moved := by omega
    subst all
    refine ⟨fun done => by omega, fun _ => ⟨fun far => by omega, ?_, ?_⟩⟩
    · exact carries.overflow (sector + length) state next
    · intro _ before
      have left : (lent.buffer.drop (length * sectorSize)).length =
          (remaining - length) * sectorSize := by
        rw [List.length_drop, whole, Nat.sub_mul]
      by_cases done : remaining = length
      · have finished : (lent.buffer.drop (length * sectorSize)).length / sectorSize = 0 := by
          rw [left, Nat.mul_div_cancel _ (by decide)]
          omega
        rw [done]
        exact readUnits_done finished next
      · have more : 0 < remaining - length := by omega
        have rest := ih (remaining - length) (by omega)
          { buffer := lent.buffer.drop (length * sectorSize), state } more left (by omega)
          (carries.transfer (sector + length) (remaining - length) state next before more (by omega))
        have total : sector + length + (remaining - length) = sector + remaining := by omega
        rw [total] at rest
        exact rest

theorem readUnits (carries : Carries drive .read stop ready refuses faults) (device : String)
    {remaining sector : Nat} (lent : Lent (Session σ)) (first : ready sector lent.state)
    (small : sector < UInt64.size) (whole : lent.buffer.length = remaining * sectorSize)
    (inside : sector + remaining ≤ stop) :
    Action.Ends (readUnits device drive 1 sector) lent
      (fun _ after => ready (sector + remaining) after.state)
      (fun cause after => refuses cause after.state)
      (fun reason after => faults reason after.state) := by
  by_cases done : remaining = 0
  · subst done
    have finished : lent.buffer.length / sectorSize = 0 := by
      rw [whole, Nat.zero_mul, Nat.zero_div]
    exact readUnits_done finished first
  · have wanted : 0 < remaining := Nat.pos_of_ne_zero done
    exact carries.readUnits_from device lent wanted whole inside
      (carries.transfer sector remaining lent.state first small wanted inside)

/-- A write whose first transfer ends well carries on from there. -/
theorem writeStaged_from (carries : Carries drive .write stop ready refuses faults)
    {remaining sector : Nat} (session : Session σ) (wanted : 0 < remaining)
    (room : remaining ≤ Staging.sectors) (inside : sector + remaining ≤ stop)
    (first : Action.Ends (Session.transfer drive .write sector remaining) session
      (fun moved after => moved ≤ Staging.sectors ∧ ready (sector + moved) after) refuses faults) :
    Action.Ends (writeStaged drive sector remaining) session
      (fun next after =>
        (next = sector + remaining ∧ next < UInt64.size) ∧ ready (sector + remaining) after)
      refuses faults := by
  induction remaining using Nat.strongRecOn generalizing sector session with
  | ind remaining ih =>
    apply writeStaged_round (by omega)
    refine first.with_run.mono ?_ (fun _ _ refused => refused)
    intro moved after result
    obtain ⟨run, -, next⟩ := result
    have bounds := transfer_moved wanted run
    refine ⟨carries.overflow (sector + moved) after next, fun many => by omega, ?_⟩
    intro before _
    have advanced := carries.staged (sector + moved) after
      (advance moved (remaining - moved) after).channel.staging next
    by_cases done : remaining = moved
    · subst done
      rw [Nat.sub_self] at advanced ⊢
      exact writeStaged_done ⟨⟨rfl, before⟩, advanced⟩
    · have more : 0 < remaining - moved := by omega
      have rest := ih (remaining - moved) (by omega) (advance moved (remaining - moved) after) more
        (by omega) (by omega)
        (carries.transfer (sector + moved) (remaining - moved) _ advanced before more (by omega))
      have total : sector + moved + (remaining - moved) = sector + remaining := by omega
      rw [total] at rest
      exact rest

theorem writeStaged (carries : Carries drive .write stop ready refuses faults)
    {remaining sector : Nat} (session : Session σ) (first : ready sector session)
    (small : sector < UInt64.size) (room : remaining ≤ Staging.sectors)
    (inside : sector + remaining ≤ stop) :
    Action.Ends (writeStaged drive sector remaining) session
      (fun next after =>
        (next = sector + remaining ∧ next < UInt64.size) ∧ ready (sector + remaining) after)
      refuses faults := by
  by_cases done : remaining = 0
  · subst done
    exact writeStaged_done ⟨⟨rfl, small⟩, first⟩
  · have wanted : 0 < remaining := Nat.pos_of_ne_zero done
    exact carries.writeStaged_from session wanted room inside
      (carries.transfer sector remaining session first small wanted inside)

section Pieces

variable {sector sectors count : Nat} {piece : Bytes} {rest : List Bytes}

theorem length_behind (length : piece.length = sectors * sectorSize)
    (total : (piece :: rest).flatten.length = count * sectorSize) :
    sectors ≤ count ∧ rest.flatten.length = (count - sectors) * sectorSize := by
  rw [List.flatten_cons, List.length_append, length] at total
  refine ⟨?_, ?_⟩
  · simp only [sectorSize] at total
    omega
  · rw [Nat.sub_mul]
    omega

theorem writePieces (carries : Carries drive .write stop ready refuses faults)
    (pieces : List Bytes) (session : Session σ) (first : ready sector session)
    (small : sector < UInt64.size)
    (whole : ∀ piece ∈ pieces, ∃ length ≤ Staging.sectors, piece.length = length * sectorSize)
    (total : pieces.flatten.length = count * sectorSize) (inside : sector + count ≤ stop) :
    Action.Ends (writePieces drive sector pieces) session
      (fun _ after => ready (sector + count) after) refuses faults := by
  induction pieces generalizing sector count session with
  | nil =>
    have empty : count = 0 := by
      simp only [List.flatten_nil, List.length_nil, sectorSize] at total
      omega
    subst empty
    exact first
  | cons piece rest ih =>
    obtain ⟨sectors, room, length⟩ := whole piece List.mem_cons_self
    obtain ⟨present, behind⟩ := length_behind length total
    have size : piece.length / sectorSize = sectors := by
      rw [length, Nat.mul_div_cancel _ (by decide)]
    rw [Session.writePieces, size]
    refine (stage_ends session length room).bind ?_
    intro _ staged same
    have still : ready sector staged := by
      rw [same]
      exact carries.staged sector session _ first
    refine (carries.writeStaged staged still small room (by omega)).bind ?_
    intro next middle written
    obtain ⟨⟨ended, below⟩, further⟩ := written
    subst ended
    have others := ih middle further below
      (fun piece member => whole piece (List.mem_cons_of_mem _ member)) behind (by omega)
    have sum : sector + sectors + (count - sectors) = sector + count := by omega
    rw [sum] at others
    exact others

/-- Pieces of which the first one begins with a transfer that ends well. -/
theorem writePieces_from (carries : Carries drive .write stop ready refuses faults)
    (session : Session σ) (wanted : 0 < sectors) (room : sectors ≤ Staging.sectors)
    (length : piece.length = sectors * sectorSize)
    (whole : ∀ piece ∈ rest, ∃ length ≤ Staging.sectors, piece.length = length * sectorSize)
    (total : (piece :: rest).flatten.length = count * sectorSize) (inside : sector + count ≤ stop)
    (first : ∀ staging, Action.Ends (Session.transfer drive .write sector sectors)
      { session with channel := { session.channel with staging } }
      (fun moved after => moved ≤ Staging.sectors ∧ ready (sector + moved) after) refuses faults) :
    Action.Ends (Session.writePieces drive sector (piece :: rest)) session
      (fun _ after => ready (sector + count) after) refuses faults := by
  obtain ⟨present, behind⟩ := length_behind length total
  have size : piece.length / sectorSize = sectors := by
    rw [length, Nat.mul_div_cancel _ (by decide)]
  rw [Session.writePieces, size]
  refine (stage_ends session length room).bind ?_
  intro _ staged same
  rw [same]
  refine (carries.writeStaged_from _ wanted room (by omega) (first _)).bind ?_
  intro next middle written
  obtain ⟨⟨ended, below⟩, further⟩ := written
  subst ended
  have others := carries.writePieces rest middle further below whole behind (by omega)
  have sum : sector + sectors + (count - sectors) = sector + count := by omega
  rw [sum] at others
  exact others

end Pieces

section Request

variable {disk : DiskHandle} {sector count : Nat} {record : Geometry}

theorem read (lent : Lent (Session σ)) {resolved : Session σ}
    (carries : Carries drive .read (sector + count) ready refuses faults)
    (handle : driveBehind disk = .ok drive)
    (met : recordOf drive lent.state = (.ok record, resolved)) (plain : record.optical = false)
    (small : sector < UInt64.size) (whole : lent.buffer.length = count * sectorSize)
    (accepted : checkRequest disk sector count = .ok ()) (first : ready sector resolved) :
    Action.Ends (Session.read disk sector) lent
      (fun _ after => ready (sector + count) after.state)
      (fun cause after => refuses cause after.state)
      (fun reason after => faults reason after.state) := by
  apply Action.Ends.of_run (read_accepted handle (sectorCount_of_mul whole) accepted met)
  rw [readUnit, plain, if_neg Bool.false_ne_true]
  exact carries.readUnits disk.name { lent with state := resolved } first small whole (Nat.le_refl _)

theorem write {bytes : Bytes} {session resolved : Session σ}
    (carries : Carries drive .write (sector + count) ready refuses faults)
    (handle : driveBehind disk = .ok drive)
    (met : recordOf drive session = (.ok record, resolved)) (plain : record.optical = false)
    (small : sector < UInt64.size) (whole : bytes.length = count * sectorSize)
    (accepted : checkRequest disk sector count = .ok ()) (first : ready sector resolved) :
    Action.Ends (Session.write disk sector bytes) session
      (fun _ after => ready (sector + count) after) refuses faults := by
  apply Action.Ends.of_run (write_accepted handle (sectorCount_of_mul whole) accepted met plain)
  exact carries.writePieces (writtenPieces bytes) resolved first small
    (fun piece member => writtenPieces_sectors whole member)
    (by rw [writtenPieces_flatten, whole]) (Nat.le_refl _)

/-- A read of at least one sector, whose first transfer ends well. -/
theorem read_from (lent : Lent (Session σ)) {resolved : Session σ}
    (carries : Carries drive .read (sector + count) ready refuses faults)
    (handle : driveBehind disk = .ok drive)
    (met : recordOf drive lent.state = (.ok record, resolved)) (plain : record.optical = false)
    (wanted : 0 < count) (whole : lent.buffer.length = count * sectorSize)
    (accepted : checkRequest disk sector count = .ok ())
    (first : Action.Ends (Session.transfer drive .read sector count) resolved
      (fun moved after => moved ≤ Staging.sectors ∧ ready (sector + moved) after) refuses faults) :
    Action.Ends (Session.read disk sector) lent
      (fun _ after => ready (sector + count) after.state)
      (fun cause after => refuses cause after.state)
      (fun reason after => faults reason after.state) := by
  apply Action.Ends.of_run (read_accepted handle (sectorCount_of_mul whole) accepted met)
  rw [readUnit, plain, if_neg Bool.false_ne_true]
  exact carries.readUnits_from disk.name { lent with state := resolved } wanted whole
    (Nat.le_refl _) first

/-- A write of at least one sector, whose first transfer ends well. -/
theorem write_from {bytes : Bytes} {session resolved : Session σ}
    (carries : Carries drive .write (sector + count) ready refuses faults)
    (handle : driveBehind disk = .ok drive)
    (met : recordOf drive session = (.ok record, resolved)) (plain : record.optical = false)
    (wanted : 0 < count) (whole : bytes.length = count * sectorSize)
    (accepted : checkRequest disk sector count = .ok ())
    (first : ∀ staging,
      Action.Ends (Session.transfer drive .write sector (min count Geometry.longestTransfer))
        { resolved with channel := { resolved.channel with staging } }
        (fun moved after => moved ≤ Staging.sectors ∧ ready (sector + moved) after) refuses
        faults) :
    Action.Ends (Session.write disk sector bytes) session
      (fun _ after => ready (sector + count) after) refuses faults := by
  obtain ⟨piece, rest, cut, length⟩ := writtenPieces_cons wanted whole
  have flat := writtenPieces_flatten bytes
  have sectors (later : Bytes) (member : later ∈ rest) :
      ∃ length ≤ Staging.sectors, later.length = length * sectorSize :=
    writtenPieces_sectors whole (by rw [cut]; exact List.mem_cons_of_mem piece member)
  apply Action.Ends.of_run (write_accepted handle (sectorCount_of_mul whole) accepted met plain)
  rw [cut] at flat ⊢
  have longest : Geometry.longestTransfer = 127 := rfl
  have limit : Staging.sectors = 128 := rfl
  exact carries.writePieces_from resolved (by omega) (by omega) length sectors
    (by rw [flat, whole]) (Nat.le_refl _) first

end Request

end Carries

end FirmwareDisk.Session
