import FirmwareDisk.Session.Disk
import FirmwareDisk.Proofs.Action
import FirmwareDisk.Proofs.Geometry.Cache

set_option autoImplicit false

namespace FirmwareDisk.Session

theorem forget_eq {σ : Type} (session : Session σ) (drive : DriveNumber) :
    session.forget drive =
      (session.cache.get? drive, { session with cache := session.cache.erase drive }) := by
  rw [forget, GeometryCache.take_eq]

variable {σ : Type} [Firmware σ]

section Record

variable {drive : DriveNumber} {session : Session σ} {returns : Geometry → Session σ → Prop}
  {refuses : DiskError → Session σ → Prop} {faults : Fault → Session σ → Prop}

theorem recordOf_cached {record : Geometry} (cached : session.cache.get? drive = some record) :
    recordOf drive session = (.ok record, session) := by
  rw [recordOf, Action.bind_apply]
  simp only [Action.look, cached, Action.pure_apply]

/-- A drive without a record is probed, and what the probe found goes into the table. -/
theorem recordOf_of_probe
    (cached : ∀ record, session.cache.get? drive = some record → returns record session)
    (probed : Action.Ends (Geometry.probe drive session.opticalDrive) session.channel
      (fun record channel =>
        returns record { session with channel, cache := session.cache.insert record })
      (fun cause channel => refuses cause { session with channel })
      (fun reason channel => faults reason { session with channel })) :
    Action.Ends (recordOf drive) session returns refuses faults := by
  cases found : session.cache.get? drive with
  | some record =>
    unfold Action.Ends
    rw [recordOf_cached found]
    exact cached record found
  | none =>
    rw [recordOf, Action.ends_look_bind, found]
    dsimp only
    rw [Action.ends_look_bind]
    have onSession : Action.Ends (onChannel (Geometry.probe drive session.opticalDrive)) session
        (fun record after => returns record { after with cache := after.cache.insert record })
        refuses faults := probed
    refine onSession.bind ?_
    intro record after found
    exact found

theorem transfer_of_cached {direction : Direction} {sector count : Nat} {record : Geometry}
    {returns : Nat → Session σ → Prop} (cached : session.cache.get? drive = some record)
    (moved : Action.Ends (FirmwareDisk.transfer session.settings direction sector count)
      { record, channel := session.channel }
      (fun moved link => returns moved
        { session with channel := link.channel, cache := session.cache.insert link.record })
      (fun cause link => refuses cause
        { session with channel := link.channel, cache := session.cache.insert link.record })
      (fun reason link => faults reason
        { session with channel := link.channel, cache := session.cache.insert link.record })) :
    Action.Ends (transfer drive direction sector count) session returns refuses faults := by
  exact .of_run (Action.bind_of_ok (recordOf_cached cached)) moved

end Record

/-- A check that a request for `length` bytes does not pass, and what the caller is told. -/
inductive Rejects (disk : DiskHandle) (sector length : Nat) (cause : DiskError) : Prop where
  | drive (refused : driveBehind disk = .error cause)
  | length (refused : sectorCount length = .error cause)
  | range {count : Nat} (refused : checkRequest disk sector count = .error cause)

section Equations

variable {device : String} {drive : DriveNumber} {unit sector moved : Nat} {buffer : Bytes}
  {state after : Session σ}

theorem readUnits_of_nothing (nothing : buffer.length / sectorSize = 0) :
    readUnits device drive unit sector { buffer, state } = (.ok (), { buffer, state }) := by
  rw [readUnits]
  simp only [nothing, ↓reduceIte]

theorem readUnits_of_error {cause : DiskError} (more : buffer.length / sectorSize ≠ 0)
    (run : transfer drive .read (sector - sector % unit)
      ((sector % unit + buffer.length / sectorSize + (unit - 1)) / unit * unit) state =
        (.error cause, after)) :
    readUnits device drive unit sector { buffer, state } =
      (.error cause, { buffer, state := after }) := by
  rw [readUnits]
  simp only [more, run, ↓reduceIte]

theorem readUnits_of_fault {reason : Fault} (more : buffer.length / sectorSize ≠ 0)
    (run : transfer drive .read (sector - sector % unit)
      ((sector % unit + buffer.length / sectorSize + (unit - 1)) / unit * unit) state =
        (.fault reason, after)) :
    readUnits device drive unit sector { buffer, state } =
      (.fault reason, { buffer, state := after }) := by
  rw [readUnits]
  simp only [more, run, ↓reduceIte]

/-- What a read makes of a transfer depends on the sectors that the transfer has moved. -/
theorem readUnits_of_ok (more : buffer.length / sectorSize ≠ 0)
    (run : transfer drive .read (sector - sector % unit)
      ((sector % unit + buffer.length / sectorSize + (unit - 1)) / unit * unit) state =
        (.ok moved, after)) :
    readUnits device drive unit sector { buffer, state } =
      let length := min (moved - sector % unit) (buffer.length / sectorSize)
      if length = 0 then (.error (.readFailed device), { buffer, state := after })
      else if Staging.sectors < sector % unit + length then
        (.fault .outsideBuffer, { buffer, state := after })
      else if UInt64.size ≤ sector + length then (.fault .overflow, { buffer, state := after })
      else
        let rest := readUnits device drive unit (sector + length)
          { buffer := buffer.drop (length * sectorSize), state := after }
        (rest.1, { rest.2 with
          buffer := Bytes.slice after.channel.staging.data (sector % unit * sectorSize)
            (length * sectorSize) ++ rest.2.buffer }) := by
  rw [readUnits]
  simp only [more, run, ↓reduceIte]

end Equations

section Read

variable {device : String} {drive : DriveNumber} {unit sector : Nat} {lent : Lent (Session σ)}
  {returns : Unit → Lent (Session σ) → Prop} {refuses : DiskError → Lent (Session σ) → Prop}
  {faults : Fault → Lent (Session σ) → Prop}

theorem readUnits_done (nothing : lent.buffer.length / sectorSize = 0) (done : returns () lent) :
    Action.Ends (readUnits device drive unit sector) lent returns refuses faults := by
  unfold Action.Ends
  rw [readUnits]
  simp only [nothing, ↓reduceIte]
  exact done

/-- A round reads a run of units, passes over the sectors in front of the request, and hands on the
rest of the buffer. -/
theorem readUnits_round (more : lent.buffer.length / sectorSize ≠ 0)
    (first : Action.Ends
      (transfer drive .read (sector - sector % unit)
        ((sector % unit + lent.buffer.length / sectorSize + (unit - 1)) / unit * unit)) lent.state
      (fun moved state => ∀ length,
        length = min (moved - sector % unit) (lent.buffer.length / sectorSize) →
        (length = 0 → refuses (.readFailed device) { lent with state }) ∧
        (length ≠ 0 →
          (Staging.sectors < sector % unit + length → faults .outsideBuffer { lent with state }) ∧
          (UInt64.size ≤ sector + length → faults .overflow { lent with state }) ∧
          (sector % unit + length ≤ Staging.sectors → sector + length < UInt64.size →
            Action.Ends (readUnits device drive unit (sector + length))
              { buffer := lent.buffer.drop (length * sectorSize), state }
              (fun value (after : Lent (Session σ)) => returns value { after with
                buffer := Bytes.slice state.channel.staging.data (sector % unit * sectorSize)
                  (length * sectorSize) ++ after.buffer })
              (fun cause (after : Lent (Session σ)) => refuses cause { after with
                buffer := Bytes.slice state.channel.staging.data (sector % unit * sectorSize)
                  (length * sectorSize) ++ after.buffer })
              (fun reason (after : Lent (Session σ)) => faults reason { after with
                buffer := Bytes.slice state.channel.staging.data (sector % unit * sectorSize)
                  (length * sectorSize) ++ after.buffer }))))
      (fun cause state => refuses cause { lent with state })
      (fun reason state => faults reason { lent with state })) :
    Action.Ends (readUnits device drive unit sector) lent returns refuses faults := by
  obtain ⟨moved, state, run, rest⟩ | ⟨cause, state, run, refused⟩ | ⟨reason, state, run, fault⟩ :=
    first.cases
  · obtain ⟨atEnd, before⟩ := rest _ rfl
    -- The checks that end a round come in the order in which the loop makes them.
    by_cases empty : min (moved - sector % unit) (lent.buffer.length / sectorSize) = 0
    · unfold Action.Ends
      rw [readUnits]
      simp only [more, run, empty, ↓reduceIte]
      exact atEnd empty
    · obtain ⟨outside, overflow, inside⟩ := before empty
      by_cases far : Staging.sectors <
          sector % unit + min (moved - sector % unit) (lent.buffer.length / sectorSize)
      · unfold Action.Ends
        rw [readUnits]
        simp only [more, run, empty, far, ↓reduceIte]
        exact outside far
      · by_cases last :
            UInt64.size ≤ sector + min (moved - sector % unit) (lent.buffer.length / sectorSize)
        · unfold Action.Ends
          rw [readUnits]
          simp only [more, run, empty, far, last, ↓reduceIte]
          exact overflow last
        · refine (inside (Nat.not_lt.mp far) (Nat.not_le.mp last)).through
            (fun (after : Lent (Session σ)) => { after with
              buffer := Bytes.slice state.channel.staging.data (sector % unit * sectorSize)
                (min (moved - sector % unit) (lent.buffer.length / sectorSize) * sectorSize) ++
                  after.buffer }) ?_
          rw [readUnits]
          simp only [more, run, empty, far, last, ↓reduceIte]
  · unfold Action.Ends
    rw [readUnits]
    simp only [more, run, ↓reduceIte]
    exact refused
  · unfold Action.Ends
    rw [readUnits]
    simp only [more, run, ↓reduceIte]
    exact fault

/-- A read that passes the checks asks for the record of its drive, and reads its units. -/
theorem read_of_units {disk : DiskHandle}
    (rejected : ∀ cause, Rejects disk sector lent.buffer.length cause → refuses cause lent)
    (met : ∀ drive count, driveBehind disk = .ok drive →
      sectorCount lent.buffer.length = .ok count → checkRequest disk sector count = .ok () →
      Action.Ends (recordOf drive) lent.state
        (fun record state =>
          Action.Ends (readUnits disk.name drive (readUnit state.settings record) sector)
            { lent with state } returns refuses faults)
        (fun cause state => refuses cause { lent with state })
        (fun reason state => faults reason { lent with state })) :
    Action.Ends (read disk sector) lent returns refuses faults := by
  unfold read
  apply Action.ends_check_bind (fun cause refused => rejected cause (.drive refused))
  intro drive found
  rw [Action.ends_look_bind]
  apply Action.ends_check_bind (fun cause refused => rejected cause (.length refused))
  intro count counted
  apply Action.ends_check_bind (fun cause refused => rejected cause (.range refused))
  intro _ inside
  have aside : Action.Ends (Lent.aside (recordOf drive)) lent
      (fun record after =>
        Action.Ends (readUnits disk.name drive (readUnit after.state.settings record) sector)
          after returns refuses faults)
      refuses faults := met drive count found counted inside
  refine aside.bind ?_
  intro record after units
  rw [Action.ends_look_bind]
  exact units

end Read

section Write

variable {drive : DriveNumber} {sector remaining : Nat} {session : Session σ}
  {returns : Nat → Session σ → Prop} {refuses : DiskError → Session σ → Prop}
  {faults : Fault → Session σ → Prop}

theorem writeStaged_done (done : returns sector session) :
    Action.Ends (writeStaged drive sector 0) session returns refuses faults := by
  unfold Action.Ends
  rw [writeStaged]
  exact done

/-- The loop over staged sectors, without the proof that it comes to an end. -/
theorem writeStaged_eq (more : remaining ≠ 0) :
    writeStaged drive sector remaining session =
      match transfer drive .write sector remaining session with
      | (.error cause, after) => (.error cause, after)
      | (.fault reason, after) => (.fault reason, after)
      | (.ok moved, after) =>
        if UInt64.size ≤ sector + moved then (.fault .overflow, after)
        else if Staging.sectors < remaining then (.fault .outsideBuffer, after)
        else writeStaged drive (sector + moved) (remaining - moved)
          (advance moved (remaining - moved) after) := by
  rw [writeStaged, dif_neg more]
  split <;> rename_i run <;> simp only [run]

/-- A round writes some of the staged sectors, and moves the others to the start of the buffer. -/
theorem writeStaged_round (more : remaining ≠ 0)
    (first : Action.Ends (transfer drive .write sector remaining) session
      (fun moved after =>
        (UInt64.size ≤ sector + moved → faults .overflow after) ∧
        (Staging.sectors < remaining → faults .outsideBuffer after) ∧
        (sector + moved < UInt64.size → remaining ≤ Staging.sectors →
          Action.Ends (writeStaged drive (sector + moved) (remaining - moved))
            (advance moved (remaining - moved) after) returns refuses faults))
      refuses faults) :
    Action.Ends (writeStaged drive sector remaining) session returns refuses faults := by
  unfold Action.Ends
  rw [writeStaged_eq more]
  obtain ⟨moved, after, run, rest⟩ | ⟨cause, after, run, refused⟩ | ⟨reason, after, run, fault⟩ :=
    first.cases
  · obtain ⟨overflow, outside, inside⟩ := rest
    by_cases far : UInt64.size ≤ sector + moved
    · simp only [run, far, ↓reduceIte]
      exact overflow far
    · by_cases many : Staging.sectors < remaining
      · simp only [run, far, many, ↓reduceIte]
        exact outside many
      · simp only [run, far, many, ↓reduceIte]
        exact inside (Nat.not_le.mp far) (Nat.not_lt.mp many)
  · simp only [run]
    exact refused
  · simp only [run]
    exact fault

/-- A write that passes the checks asks for the record of its drive, which must not be the optical
one, and writes its pieces. -/
theorem write_of_pieces {disk : DiskHandle} {bytes : Bytes} {returns : Unit → Session σ → Prop}
    (rejected : ∀ cause, Rejects disk sector bytes.length cause → refuses cause session)
    (met : ∀ drive count, driveBehind disk = .ok drive → sectorCount bytes.length = .ok count →
      Action.Ends (recordOf drive) session
        (fun record after =>
          (record.optical = true → refuses (.readOnly disk.name) after) ∧
          (record.optical = false →
            (∀ cause, checkRequest disk sector count = .error cause → refuses cause after) ∧
            (checkRequest disk sector count = .ok () →
              Action.Ends (writePieces drive sector (writtenPieces bytes)) after returns refuses
                faults)))
        refuses faults) :
    Action.Ends (write disk sector bytes) session returns refuses faults := by
  unfold write
  apply Action.ends_check_bind (fun cause refused => rejected cause (.drive refused))
  intro drive found
  apply Action.ends_check_bind (fun cause refused => rejected cause (.length refused))
  intro count counted
  refine (met drive count found counted).bind ?_
  intro record after result
  obtain ⟨readOnly, written⟩ := result
  cases optical : record.optical with
  | true => exact readOnly optical
  | false =>
    obtain ⟨outside, inside⟩ := written optical
    exact Action.ends_check_bind outside fun _ checked => inside checked

end Write

section Accepted

variable {disk : DiskHandle} {drive : DriveNumber} {sector count : Nat} {record : Geometry}
  {resolved : Session σ}

theorem read_accepted {lent : Lent (Session σ)} (handle : driveBehind disk = .ok drive)
    (whole : sectorCount lent.buffer.length = .ok count)
    (accepted : checkRequest disk sector count = .ok ())
    (met : recordOf drive lent.state = (.ok record, resolved)) :
    read disk sector lent =
      readUnits disk.name drive (readUnit resolved.settings record) sector
        { lent with state := resolved } := by
  have aside : Lent.aside (recordOf drive) lent = (.ok record, { lent with state := resolved }) := by
    rw [Lent.aside, Action.onPart, met]
  rw [read, Action.bind_of_ok (Action.check_of_ok handle lent), Action.look_bind,
    Action.bind_of_ok (Action.check_of_ok whole lent),
    Action.bind_of_ok (Action.check_of_ok accepted lent), Action.bind_of_ok aside,
    Action.look_bind]

theorem write_accepted {bytes : Bytes} {session : Session σ}
    (handle : driveBehind disk = .ok drive) (whole : sectorCount bytes.length = .ok count)
    (accepted : checkRequest disk sector count = .ok ())
    (met : recordOf drive session = (.ok record, resolved)) (plain : record.optical = false) :
    write disk sector bytes session = writePieces drive sector (writtenPieces bytes) resolved := by
  rw [write, Action.bind_of_ok (Action.check_of_ok handle session),
    Action.bind_of_ok (Action.check_of_ok whole session), Action.bind_of_ok met, plain,
    if_neg Bool.false_ne_true, Action.bind_of_ok (Action.check_of_ok accepted resolved)]

end Accepted

end FirmwareDisk.Session
