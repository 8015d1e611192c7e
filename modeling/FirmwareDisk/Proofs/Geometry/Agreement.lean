import FirmwareDisk.Geometry.Probe
import FirmwareDisk.Proofs.Transfer.Agreement

set_option autoImplicit false

namespace FirmwareDisk.Geometry

variable {σ : Type} [Firmware σ] {ε : Type} {number : DriveNumber} {alike : σ → σ → Prop}
  {segment : UInt16} {first second : Channel σ}

theorem readSector?_agrees (services : Firmware.Alike number alike) (address : Chs)
    (same : first.Alike alike segment 0 second) :
    Action.Agrees (readSector? number address : Action (Channel σ) ε (Option Bytes)) first second
      (fun _ => Channel.Alike alike segment 0) (Channel.Alike alike segment 0) := by
  have room : sectorSize ≤ Staging.byteSize := by decide
  have lent := @Channel.lend_agrees σ alike segment 0 first second .read _
    (services.chs .read address 1) sectorSize room nofun same
  refine lent.caught_bind ?_ ?_ (fun _ _ failed => failed)
  · intro _ one two done
    refine Action.agrees_look_bind done.staged ?_
    exact Action.agrees_pure (done.shorten (Nat.zero_le _))
  · intro _ one two failed
    exact Action.agrees_pure failed

theorem extendedParameters?_agrees (services : Firmware.Alike number alike)
    (same : first.Alike alike segment 0 second) :
    Action.Agrees (extendedParameters? number : Action (Channel σ) ε (Option DriveParameters))
      first second (fun _ => Channel.Alike alike segment 0) (Channel.Alike alike segment 0) := by
  have asked := services.version first.firmware second.firmware same.firmware
  rcases version : Firmware.extensionsVersion number first.firmware with ⟨level, one⟩
  rcases again : Firmware.extensionsVersion number second.firmware with ⟨other, two⟩
  rw [version, again] at asked
  obtain ⟨equal, still⟩ := asked
  dsimp only at equal still
  subst equal
  have left {one two : σ} (still : alike one two) :
      Channel.Alike alike segment 0 { first with firmware := one }
        { second with firmware := two } :=
    ⟨still, same.here, same.there, rfl⟩
  cases level with
  | none =>
    exact .ok (by rw [extendedParameters?, version]) (by rw [extendedParameters?, again])
      (left still)
  | some level =>
    let block :=
      Bytes.ofNat 2 DriveParameters.byteSize ++ Bytes.zeros (DriveParameters.byteSize - 2)
    cases services.extended block one two still with
    | @ok _ after last run rerun done =>
      obtain ⟨bytes, after⟩ := after
      obtain ⟨others, last⟩ := last
      obtain ⟨done, equal⟩ := done
      dsimp only at done equal
      subst equal
      let found := DriveParameters.ofBytes (Bytes.overlay block 0 bytes)
      have front : (extendedParameters? number first : Outcome ε _ × Channel σ) =
          (.ok (some found), { first with firmware := after }) := by
        simp only [extendedParameters?, version, run, block, found]
      have back : (extendedParameters? number second : Outcome ε _ × Channel σ) =
          (.ok (some found), { second with firmware := last }) := by
        simp only [extendedParameters?, again, rerun, block, found]
      exact .ok front back (left done)
    | @error _ after last run rerun failed =>
      have front : (extendedParameters? number first : Outcome ε _ × Channel σ) =
          (.ok none, { first with firmware := after.state }) := by
        simp only [extendedParameters?, version, run, block]
      have back : (extendedParameters? number second : Outcome ε _ × Channel σ) =
          (.ok none, { second with firmware := last.state }) := by
        simp only [extendedParameters?, again, rerun, block]
      exact .ok front back (left failed)
    | @fault reason after last run rerun failed =>
      have front : (extendedParameters? number first : Outcome ε _ × Channel σ) =
          (.fault reason, { first with firmware := after.state }) := by
        simp only [extendedParameters?, version, run, block]
      have back : (extendedParameters? number second : Outcome ε _ × Channel σ) =
          (.fault reason, { second with firmware := last.state }) := by
        simp only [extendedParameters?, again, rerun, block]
      exact .fault front back (left failed)

theorem fixedBaseline_agrees (services : Firmware.Alike number alike)
    (same : first.Alike alike segment 0 second) :
    Action.Agrees (fixedBaseline number : Action (Channel σ) ε Baseline) first second
      (fun _ => Channel.Alike alike segment 0) (Channel.Alike alike segment 0) := by
  unfold fixedBaseline
  refine (extendedParameters?_agrees services same).bind ?_
  intro parameters one two still
  have asked : Action.Agrees (Channel.ask (Firmware.legacyParameters number)) one two
      (fun _ => Channel.Alike alike segment 0) (Channel.Alike alike segment 0) := by
    refine Action.Agrees.onPart ((services.legacy _ _ still.firmware).mono ?_ ?_)
    · intro _ after other done
      exact ⟨done, still.here, still.there, rfl⟩
    · intro after other failed
      exact ⟨failed, still.here, still.there, rfl⟩
  exact asked.caught_bind (fun _ _ _ done => Action.agrees_pure done)
    (fun _ _ _ failed => Action.agrees_pure failed) (fun _ _ failed => failed)

theorem trackShape?_agrees (services : Firmware.Alike number alike) (base : Nat)
    (same : first.Alike alike segment 0 second) :
    Action.Agrees (trackShape? number base : Action (Channel σ) ε (Option TrackShape)) first second
      (fun _ => Channel.Alike alike segment 0) (Channel.Alike alike segment 0) := by
  unfold trackShape?
  refine (readSector?_agrees services _ same).bind ?_
  intro secondHead one two still
  cases secondHead with
  | none => exact Action.agrees_pure still
  | some secondHead =>
    dsimp only
    cases sectorsShown? base secondHead with
    | none => exact Action.agrees_pure still
    | some sectors =>
      refine (readSector?_agrees services _ still).bind ?_
      intro secondCylinder after other done
      cases secondCylinder with
      | none => exact Action.agrees_pure done
      | some secondCylinder =>
        dsimp only
        cases headsShown? base sectors secondCylinder with
        | none => exact Action.agrees_pure done
        | some heads => exact Action.agrees_pure done

theorem followOverride_agrees (services : Firmware.Alike number alike) (baseline : Baseline)
    (fbOverride : FbOverride) (same : first.Alike alike segment 0 second) :
    Action.Agrees (followOverride number baseline fbOverride : Action (Channel σ) ε Geometry)
      first second (fun record one two => record.drive = number ∧ one.Alike alike segment 0 two)
      (Channel.Alike alike segment 0) := by
  unfold followOverride
  dsimp only
  split
  · exact Action.agrees_pure ⟨rfl, same⟩
  · refine (trackShape?_agrees services _ same).bind ?_
    intro shape one two still
    cases shape with
    | none => exact Action.agrees_pure ⟨rfl, still⟩
    | some shape => exact Action.agrees_pure ⟨rfl, still⟩

theorem baseline_bind_agrees (services : Firmware.Alike number alike) (bootSector : Bytes)
    {next : Baseline → Action (Channel σ) DiskError Geometry}
    {returns : Geometry → Channel σ → Channel σ → Prop}
    (same : first.Alike alike segment 0 second)
    (rest : ∀ baseline one two, one.Alike alike segment 0 two →
      Action.Agrees (next baseline) one two returns (Channel.Alike alike segment 0)) :
    Action.Agrees
      (if number.isFixed = true then fixedBaseline number >>= next
        else next (floppyBaseline bootSector))
      first second returns (Channel.Alike alike segment 0) := by
  split
  · exact (fixedBaseline_agrees services same).bind rest
  · exact rest _ first second same

/-- A probe goes the same way over channels that are alike. -/
theorem probe_agrees (services : Firmware.Alike number alike)
    (opticalDrive : Option DriveNumber) (same : first.Alike alike segment 0 second) :
    Action.Agrees (probe number opticalDrive) first second
      (fun record one two => record.drive = number ∧ one.Alike alike segment 0 two)
      (Channel.Alike alike segment 0) := by
  unfold probe
  split
  · exact Action.agrees_pure ⟨rfl, same⟩
  · refine (readSector?_agrees services _ same).bind ?_
    intro bootSector one two still
    cases bootSector with
    | none => exact Action.agrees_refuse still
    | some bootSector =>
      refine baseline_bind_agrees services bootSector still ?_
      intro baseline one two done
      split
      · exact Action.agrees_pure ⟨rfl, done⟩
      · exact followOverride_agrees services baseline _ done

end FirmwareDisk.Geometry
