import FirmwareDisk.Proofs.Firmware.Transcript
import FirmwareDisk.Proofs.Session.Rounds

set_option autoImplicit false

namespace FirmwareDisk

variable {σ τ ε : Type} [Firmware σ] [Firmware τ] {view : τ → σ}

namespace Geometry

variable (simulation : Firmware.Simulation view) (drive : DriveNumber)
include simulation

theorem simulates_readSector? (address : Chs) :
    Action.Simulates (Channel.map view) (readSector? drive address : Action (Channel τ) ε _)
      (readSector? drive address) := by
  have served := Channel.simulates_lend (simulation.chsTransfer .read drive address 1) sectorSize
  refine served.caught.bind ?_
  intro answer
  cases answer with
  | ok => exact Action.simulates_look_bind (fun _ => rfl) fun _ => Action.simulates_pure _ _
  | error => exact Action.simulates_pure _ _

theorem simulates_extendedParameters? :
    Action.Simulates (Channel.map view) (extendedParameters? drive : Action (Channel τ) ε _)
      (extendedParameters? drive) := by
  intro channel
  have version := simulation.extensionsVersion drive channel.firmware
  simp only [extendedParameters?, Channel.map, version]
  rcases Firmware.extensionsVersion drive channel.firmware with ⟨_ | level, firmware⟩
  · rfl
  · have given := simulation.extendedParameters drive {
      buffer := Bytes.ofNat 2 DriveParameters.byteSize ++ Bytes.zeros (DriveParameters.byteSize - 2)
      state := firmware }
    simp only [Lent.map] at given
    simp only [given]
    rcases Firmware.extendedParameters drive _ with ⟨value | status | reason, after⟩ <;> rfl

theorem simulates_fixedBaseline :
    Action.Simulates (Channel.map view) (fixedBaseline drive : Action (Channel τ) ε _)
      (fixedBaseline drive) := by
  refine (simulates_extendedParameters? simulation drive).bind ?_
  intro parameters
  have asked : Action.Simulates (Channel.map view)
      (Channel.ask (Firmware.legacyParameters drive))
      (Channel.ask (Firmware.legacyParameters drive)) := by
    intro channel
    have legacy := simulation.legacyParameters drive channel.firmware
    simp only [Channel.ask, Action.onPart, Channel.map, legacy]
  refine asked.caught.bind ?_
  intro answer
  cases answer with
  | ok => exact Action.simulates_pure _ _
  | error => exact Action.simulates_pure _ _

theorem simulates_trackShape? (base : Nat) :
    Action.Simulates (Channel.map view) (trackShape? drive base : Action (Channel τ) ε _)
      (trackShape? drive base) := by
  refine (simulates_readSector? simulation drive _).bind ?_
  intro secondHead
  cases secondHead with
  | none => exact Action.simulates_pure _ _
  | some secondHead =>
    dsimp only
    cases sectorsShown? base secondHead with
    | none => exact Action.simulates_pure _ _
    | some sectors =>
      refine (simulates_readSector? simulation drive _).bind ?_
      intro secondCylinder
      cases secondCylinder with
      | none => exact Action.simulates_pure _ _
      | some secondCylinder =>
        dsimp only
        cases headsShown? base sectors secondCylinder <;> exact Action.simulates_pure _ _

theorem simulates_followOverride (baseline : Baseline) (fbOverride : FbOverride) :
    Action.Simulates (Channel.map view)
      (followOverride drive baseline fbOverride : Action (Channel τ) ε _)
      (followOverride drive baseline fbOverride) := by
  unfold followOverride
  dsimp only
  split
  · exact Action.simulates_pure _ _
  · refine (simulates_trackShape? simulation drive _).bind ?_
    intro shape
    cases shape <;> exact Action.simulates_pure _ _

/-- A drive is probed the same way on both firmwares. -/
theorem simulates_probe (opticalDrive : Option DriveNumber) :
    Action.Simulates (Channel.map view) (probe drive opticalDrive) (probe drive opticalDrive) := by
  unfold probe
  split
  · exact Action.simulates_pure _ _
  · refine (simulates_readSector? simulation drive _).bind ?_
    intro bootSector
    cases bootSector with
    | none => exact Action.simulates_refuse _ _
    | some bootSector =>
      dsimp only
      cases FbOverride.ofSector? bootSector with
      | none =>
        split
        · exact (simulates_fixedBaseline simulation drive).bind fun _ => Action.simulates_pure _ _
        · exact Action.simulates_pure _ _
      | some fbOverride =>
        split
        · exact (simulates_fixedBaseline simulation drive).bind fun baseline =>
            simulates_followOverride simulation drive baseline fbOverride
        · exact simulates_followOverride simulation drive _ fbOverride

end Geometry

/-- A session seen through a view of its firmware. -/
def Session.map (view : τ → σ) (session : Session τ) : Session σ where
  channel := session.channel.map view
  settings := session.settings
  cache := session.cache
  opticalDrive := session.opticalDrive

namespace Session

variable (simulation : Firmware.Simulation view)
include simulation

theorem simulates_recordOf (drive : DriveNumber) :
    Action.Simulates (Session.map view) (recordOf drive) (recordOf drive) := by
  apply Action.simulates_look_bind (fun _ => rfl)
  intro cached
  cases cached with
  | some record => exact Action.simulates_pure _ _
  | none =>
    apply Action.simulates_look_bind (fun _ => rfl)
    intro opticalDrive
    have probed : Action.Simulates (Session.map view)
        (onChannel (Geometry.probe drive opticalDrive))
        (onChannel (Geometry.probe drive opticalDrive)) := by
      intro session
      have same := Geometry.simulates_probe simulation drive opticalDrive session.channel
      simp only [onChannel, Action.onPart, Session.map, same]
    refine probed.bind ?_
    intro record
    refine Action.Simulates.bind (Action.simulates_change ?_) fun _ => Action.simulates_pure _ _
    exact fun _ => rfl

theorem simulates_transfer (drive : DriveNumber) (direction : Direction) (sector count : Nat) :
    Action.Simulates (Session.map view) (transfer drive direction sector count)
      (transfer drive direction sector count) := by
  refine (simulates_recordOf simulation drive).bind ?_
  intro record
  apply Action.simulates_look_bind (fun _ => rfl)
  intro settings session
  have same := FirmwareDisk.simulates_transfer simulation settings direction sector count
    { record, channel := session.channel }
  simp only [Link.map] at same
  simp only [Action.onPart, Session.map, same]

theorem simulates_readUnits (device : String) (drive : DriveNumber) (unit sector : Nat) :
    Action.Simulates (Lent.map (Session.map view)) (readUnits device drive unit sector)
      (readUnits device drive unit sector) := by
  intro lent
  generalize size : lent.buffer.length = total
  induction total using Nat.strongRecOn generalizing sector lent with
  | ind total ih =>
    have same := simulates_transfer simulation drive .read (sector - sector % unit)
      ((sector % unit + lent.buffer.length / sectorSize + (unit - 1)) / unit * unit) lent.state
    rw [readUnits, readUnits]
    simp only [Lent.map, same]
    by_cases done : lent.buffer.length / sectorSize = 0
    · simp only [done, ↓reduceIte]
    · simp only [done, ↓reduceIte]
      rcases transfer drive .read _ _ lent.state with ⟨moved | cause | reason, after⟩
      · dsimp only
        by_cases empty : min (moved - sector % unit) (lent.buffer.length / sectorSize) = 0
        · simp only [empty, ↓reduceIte]
        · by_cases far : Staging.sectors <
              sector % unit + min (moved - sector % unit) (lent.buffer.length / sectorSize)
          · simp only [empty, far, ↓reduceIte]
          · by_cases last :
                UInt64.size ≤ sector + min (moved - sector % unit) (lent.buffer.length / sectorSize)
            · simp only [empty, far, last, ↓reduceIte]
            · have less := length_drop_lt (Nat.pos_of_ne_zero empty) (Nat.min_le_right _ _)
              have rest := ih _ (Nat.lt_of_lt_of_eq less size)
                (sector + min (moved - sector % unit) (lent.buffer.length / sectorSize))
                { buffer := lent.buffer.drop
                    (min (moved - sector % unit) (lent.buffer.length / sectorSize) * sectorSize)
                  state := after } rfl
              simp only [Lent.map] at rest
              simp only [empty, far, last, ↓reduceIte, rest]
              rfl
      · rfl
      · rfl

/-- A disk is read the same way over both firmwares. -/
theorem simulates_read (disk : DiskHandle) (sector : Nat) :
    Action.Simulates (Lent.map (Session.map view)) (read disk sector) (read disk sector) := by
  refine (Action.simulates_ofOutcome _ _).bind ?_
  intro drive
  apply Action.simulates_look_bind (fun _ => rfl)
  intro length
  refine (Action.simulates_ofOutcome _ _).bind ?_
  intro count
  refine (Action.simulates_ofOutcome _ _).bind ?_
  intro _
  have aside : Action.Simulates (Lent.map (Session.map view)) (Lent.aside (recordOf drive))
      (Lent.aside (recordOf drive)) := by
    intro lent
    have same := simulates_recordOf simulation drive lent.state
    simp only [Lent.aside, Action.onPart, Lent.map, same]
  refine aside.bind ?_
  intro record
  apply Action.simulates_look_bind (fun _ => rfl)
  intro settings
  exact simulates_readUnits simulation disk.name drive _ sector

theorem simulates_writeStaged (drive : DriveNumber) (sector remaining : Nat) :
    Action.Simulates (Session.map view) (writeStaged drive sector remaining)
      (writeStaged drive sector remaining) := by
  intro session
  induction remaining using Nat.strongRecOn generalizing sector session with
  | ind remaining ih =>
    by_cases done : remaining = 0
    · subst done
      rw [writeStaged, writeStaged]
      rfl
    · have same := simulates_transfer simulation drive .write sector remaining session
      rw [writeStaged_eq done, writeStaged_eq done, same]
      rcases run : transfer drive .write sector remaining session with
        ⟨moved | cause | reason, after⟩
      · have progress := transfer_moved (Nat.pos_of_ne_zero done) run
        dsimp only
        split
        · rfl
        · split
          · rfl
          · exact ih (remaining - moved) (by omega) (sector + moved)
              (advance moved (remaining - moved) after)
      · rfl
      · rfl

theorem simulates_writePieces (drive : DriveNumber) (sector : Nat) (pieces : List Bytes) :
    Action.Simulates (Session.map view) (writePieces drive sector pieces)
      (writePieces drive sector pieces) := by
  induction pieces generalizing sector with
  | nil => exact Action.simulates_pure _ _
  | cons piece rest ih =>
    have staged : Action.Simulates (Session.map view) (stage piece) (stage piece) := by
      intro session
      simp only [stage, Session.map, Channel.map]
      cases session.channel.staging.put 0 piece <;> rfl
    refine staged.bind ?_
    intro _
    exact (simulates_writeStaged simulation drive sector _).bind fun next => ih next

theorem simulates_write (disk : DiskHandle) (sector : Nat) (bytes : Bytes) :
    Action.Simulates (Session.map view) (write disk sector bytes) (write disk sector bytes) := by
  refine (Action.simulates_ofOutcome _ _).bind ?_
  intro drive
  refine (Action.simulates_ofOutcome _ _).bind ?_
  intro count
  refine (simulates_recordOf simulation drive).bind ?_
  intro record
  split
  · exact Action.simulates_refuse _ _
  · refine (Action.simulates_ofOutcome _ _).bind ?_
    intro _
    exact simulates_writePieces simulation drive sector _

end Session

section

variable {σ : Type}

def Session.watched (session : Session σ) : Session (Watched σ) :=
  session.map fun firmware => { firmware }

abbrev Session.unwatched (session : Session (Watched σ)) : Session σ :=
  session.map Watched.firmware

def Session.transcript (session : Session (Watched σ)) : List Exchange :=
  session.channel.firmware.transcript

end

end FirmwareDisk
