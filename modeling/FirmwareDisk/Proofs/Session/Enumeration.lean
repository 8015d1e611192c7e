import FirmwareDisk.Proofs.Session.Candidates

set_option autoImplicit false

namespace FirmwareDisk

/-- A hook that writes down the names it is called with, in order, beside what it sees itself. -/
def Hook.logged {τ : Type} (hook : Hook τ) : Hook (τ × List String) := fun name seen =>
  ((hook name seen.1).1, (hook name seen.1).2, seen.2 ++ [name])

namespace Session

section Hearing

variable {σ τ ε : Type}

/-- The names of the drives that are reached, in order, each with the session as it is then. -/
def offered (bootDrive : DriveNumber) (reached : List (DriveNumber × Session σ)) :
    List (String × Session σ) :=
  reached.flatMap fun entry => (namesOf bootDrive entry.1).map fun name => (name, entry.2)

/-- What a caller hears of a sequence of names: all of them, or those up to the first that is enough,
with the session in which it was offered. -/
inductive Heard (hook : Hook τ) :
    List (String × Session σ) → τ → List String → τ → Option (Session σ) → Prop where
  | nothing (seen : τ) : Heard hook [] seen [] seen none
  | enough {name : String} {session : Session σ} {rest : List (String × Session σ)} {seen last : τ}
      (answer : hook name seen = (true, last)) :
      Heard hook ((name, session) :: rest) seen [name] last (some session)
  | more {name : String} {session : Session σ} {rest : List (String × Session σ)}
      {seen middle last : τ} {calls : List String} {stop : Option (Session σ)}
      (answer : hook name seen = (false, middle)) (heard : Heard hook rest middle calls last stop) :
      Heard hook ((name, session) :: rest) seen (name :: calls) last stop

/-- How an enumeration ends: where the caller had enough, or behind the last drive. -/
def conclude (stop : Option (Session σ)) (fault : Option Fault) (after : Session σ) :
    Outcome ε Bool × Session σ :=
  match stop, fault with
  | some left, _ => (.ok true, left)
  | none, none => (.ok false, after)
  | none, some reason => (.fault reason, after)

theorem offered_names (bootDrive : DriveNumber) (reached : List (DriveNumber × Session σ)) :
    (offered bootDrive reached).map Prod.fst =
      (reached.map Prod.fst).flatMap (namesOf bootDrive) := by
  induction reached with
  | nil => rfl
  | cons entry rest ih =>
    rw [offered, List.flatMap_cons, List.map_append, List.map_cons, List.flatMap_cons, ← offered, ih]
    simp only [List.map_map, Function.comp_def, List.map_id']

variable {hook : Hook τ} {first second offers : List (String × Session σ)} {seen last : τ}
  {calls : List String} {stop : Option (Session σ)}

theorem Heard.exists (hook : Hook τ) (offers : List (String × Session σ)) (seen : τ) :
    ∃ calls last stop, Heard hook offers seen calls last stop := by
  induction offers generalizing seen with
  | nil => exact ⟨[], seen, none, .nothing seen⟩
  | cons offer rest ih =>
    rcases answer : hook offer.1 seen with ⟨_ | _, middle⟩
    · obtain ⟨calls, last, stop, heard⟩ := ih middle
      exact ⟨_, last, stop, .more answer heard⟩
    · exact ⟨_, middle, _, .enough answer⟩

theorem Heard.split (heard : Heard hook (first ++ second) seen calls last stop) :
    (∃ left, stop = some left ∧ Heard hook first seen calls last stop) ∨
      ∃ middle front back, Heard hook first seen front middle none ∧
        Heard hook second middle back last stop ∧ calls = front ++ back := by
  induction first generalizing seen calls with
  | nil => exact Or.inr ⟨seen, [], calls, .nothing seen, heard, rfl⟩
  | cons offer rest ih =>
    cases heard with
    | enough answer => exact Or.inl ⟨_, rfl, .enough answer⟩
    | more answer heard =>
      obtain ⟨left, stopped, part⟩ | ⟨middle, front, back, part, other, rfl⟩ := ih heard
      · exact Or.inl ⟨left, stopped, .more answer part⟩
      · exact Or.inr ⟨middle, _, back, .more answer part, other, rfl⟩

/-- What is heard is the beginning of the sequence. -/
theorem Heard.begins (heard : Heard hook offers seen calls last stop) :
    calls <+: offers.map Prod.fst := by
  induction heard with
  | nothing => exact List.prefix_rfl
  | enough => exact List.prefix_iff_eq_append.mpr rfl
  | more _ _ ih => exact (List.prefix_cons_inj _).mpr ih

theorem Heard.all (heard : Heard hook offers seen calls last stop)
    (never : ∀ name seen, (hook name seen).1 = false) :
    stop = none ∧ calls = offers.map Prod.fst := by
  induction heard with
  | nothing => exact ⟨rfl, rfl⟩
  | @enough name _ _ seen _ answer =>
    have asked := never name seen
    rw [answer] at asked
    cases asked
  | more _ _ ih => exact ⟨ih.1, by rw [ih.2, List.map_cons]⟩

theorem Heard.logged (heard : Heard hook offers seen calls last stop) (log : List String) :
    Heard hook.logged offers (seen, log) calls (last, log ++ calls) stop := by
  induction heard generalizing log with
  | nothing seen =>
    rw [List.append_nil]
    exact .nothing (seen, log)
  | enough answer =>
    refine .enough ?_
    rw [Hook.logged, answer]
  | more answer _ ih =>
    rw [List.append_cons]
    refine .more ?_ (ih _)
    rw [Hook.logged, answer]

end Hearing

variable {σ τ ε : Type} [Firmware σ] {drive bootDrive : DriveNumber} {drives : List DriveNumber}
  {before middle after : Session σ} {reached : List (DriveNumber × Session σ)}
  {fault : Option Fault}

/-- What comes of a drive at its turn, and whether it is reached: it is if it has a record, or gets one
from a probe. -/
inductive Turn (drive : DriveNumber) (before : Session σ) : Bool → Session σ → Prop where
  | recorded {record : Geometry} (known : before.cache.get? drive = some record) :
      Turn drive before true before
  | probed {record : Geometry} {channel : Channel σ} (unknown : before.cache.get? drive = none)
      (found : Geometry.probe drive before.opticalDrive before.channel = (.ok record, channel)) :
      Turn drive before true { before with channel, cache := before.cache.insert record }
  | passed {cause : DiskError} {channel : Channel σ} (unknown : before.cache.get? drive = none)
      (failed : Geometry.probe drive before.opticalDrive before.channel = (.error cause, channel)) :
      Turn drive before false { before with channel }

/-- Drives met one after the other: those that are reached, each with the session as it is then, and
the session after the last of them, unless the firmware faults before. -/
inductive Tour : List DriveNumber → Session σ → List (DriveNumber × Session σ) → Option Fault →
    Session σ → Prop where
  | done (session : Session σ) : Tour [] session [] none session
  | reached {drive : DriveNumber} {rest : List DriveNumber} {before middle after : Session σ}
      {further : List (DriveNumber × Session σ)} {fault : Option Fault}
      (turn : Turn drive before true middle) (tour : Tour rest middle further fault after) :
      Tour (drive :: rest) before ((drive, middle) :: further) fault after
  | passed {drive : DriveNumber} {rest : List DriveNumber} {before middle after : Session σ}
      {further : List (DriveNumber × Session σ)} {fault : Option Fault}
      (turn : Turn drive before false middle) (tour : Tour rest middle further fault after) :
      Tour (drive :: rest) before further fault after
  | broken {drive : DriveNumber} {rest : List DriveNumber} {before : Session σ}
      {reason : Fault} {channel : Channel σ} (unknown : before.cache.get? drive = none)
      (faulted : Geometry.probe drive before.opticalDrive before.channel =
        (.fault reason, channel)) :
      Tour (drive :: rest) before [] (some reason) { before with channel }

/-- The drives that an enumeration reaches: among the fixed disks and the optical drive, and then
among the floppy drives, for whose number the firmware is asked in between. -/
inductive Enumerated (session : Session σ) :
    List (DriveNumber × Session σ) → Option Fault → Session σ → Prop where
  | broken {reached : List (DriveNumber × Session σ)} {reason : Fault} {after : Session σ}
      (tour : Tour session.fixedAndOptical session reached (some reason) after) :
      Enumerated session reached (some reason) after
  | whole {first second : List (DriveNumber × Session σ)} {middle after : Session σ}
      {count : UInt8} {firmware : σ} {fault : Option Fault}
      (tour : Tour session.fixedAndOptical session first none middle)
      (counted : Firmware.floppyCount middle.channel.firmware = (count, firmware))
      (floppies : Tour (floppyDrives session.settings.bootDrive count)
        { middle with channel := { middle.channel with firmware } } second fault after) :
      Enumerated session (first ++ second) fault after

theorem Turn.met (turn : Turn drive before true after) :
    ∃ record, recordOf drive before = (.ok record, after) := by
  cases turn with
  | @recorded record known => exact ⟨record, recordOf_cached known⟩
  | @probed record _ unknown found =>
    refine ⟨record, ?_⟩
    rw [recordOf_unknown unknown, Action.bind_apply, onChannel, Action.onPart, found]
    rfl

theorem Turn.missed (turn : Turn drive before false after) :
    ∃ cause, recordOf drive before = (.error cause, after) := by
  cases turn with
  | @passed cause _ unknown failed =>
    refine ⟨cause, ?_⟩
    rw [recordOf_unknown unknown, Action.bind_apply, onChannel, Action.onPart, failed]

theorem Turn.settings {met : Bool} (turn : Turn drive before met after) :
    after.settings = before.settings := by
  cases turn <;> rfl

/-- Any drives can be met one after the other. -/
theorem Tour.exists (drives : List DriveNumber) (before : Session σ) :
    ∃ reached fault after, Tour drives before reached fault after := by
  induction drives generalizing before with
  | nil => exact ⟨[], none, before, .done before⟩
  | cons drive rest ih =>
    cases cached : before.cache.get? drive with
    | some record =>
      obtain ⟨reached, fault, after, tour⟩ := ih before
      exact ⟨_, fault, after, .reached (.recorded cached) tour⟩
    | none =>
      rcases probed : Geometry.probe drive before.opticalDrive before.channel with
        ⟨record | cause | reason, channel⟩
      · obtain ⟨reached, fault, after, tour⟩ :=
          ih { before with channel, cache := before.cache.insert record }
        exact ⟨_, fault, after, .reached (.probed cached probed) tour⟩
      · obtain ⟨reached, fault, after, tour⟩ := ih { before with channel }
        exact ⟨reached, fault, after, .passed (.passed cached probed) tour⟩
      · exact ⟨[], some reason, _, .broken cached probed⟩

theorem Tour.settings (tour : Tour drives before reached fault after) :
    after.settings = before.settings := by
  induction tour with
  | done => rfl
  | reached turn _ ih => exact ih.trans turn.settings
  | passed turn _ ih => exact ih.trans turn.settings
  | broken => rfl

theorem Tour.sublist (tour : Tour drives before reached fault after) :
    (reached.map Prod.fst).Sublist drives := by
  induction tour with
  | done => exact .slnil
  | reached _ _ ih => exact ih.cons_cons _
  | passed _ _ ih => exact ih.cons _
  | broken => exact List.nil_sublist _

theorem Tour.faults (tour : Tour drives before reached fault after) :
    ∀ reason, fault = some reason → Firmware.Faults σ reason := by
  induction tour with
  | done => nofun
  | reached _ _ ih => exact ih
  | passed _ _ ih => exact ih
  | @broken drive _ before _ _ _ faulted =>
    intro _ same
    cases same
    exact (Geometry.probe_ends (Firmware.keeps_own drive) before.opticalDrive trivial).of_fault
      faulted

section Offers

variable {hook : Hook τ} {seen last : τ} {calls : List String} {stop : Option (Session σ)}

/-- A drive that is reached is offered by its number, and then as the drive that the machine started
from if it is that one. -/
theorem offerDrive_of_ok {record : Geometry} (met : recordOf drive before = (.ok record, middle)) :
    (offerDrive hook drive : Action (Session σ × τ) ε Bool) (before, seen) =
      match hook drive.name seen with
      | (true, after) => (.ok true, (middle, after))
      | (false, after) =>
        if drive = middle.settings.bootDrive then
          (.ok (hook bootName after).1, (middle, (hook bootName after).2))
        else (.ok false, (middle, after)) := by
  have aside : (beside (Action.caught (recordOf drive)) :
      Action (Session σ × τ) ε (Except DiskError Geometry)) (before, seen) =
        (.ok (.ok record), (middle, seen)) := by
    simp only [beside, Action.onPart, Action.caught, met]
  rw [offerDrive, Action.bind_of_ok aside]
  dsimp only
  rcases answer : hook drive.name seen with ⟨enough, after⟩
  have asked : (hook.offer drive.name : Action (Session σ × τ) ε Bool) (middle, seen) =
      (.ok enough, (middle, after)) := by
    simp only [Hook.offer, answer]
  rw [Action.bind_of_ok asked]
  cases enough with
  | true => rfl
  | false =>
    rw [if_neg Bool.false_ne_true, Action.look_bind]
    split <;> rfl

/-- A drive that cannot be probed is passed over. -/
theorem offerDrive_of_error {cause : DiskError}
    (failed : recordOf drive before = (.error cause, middle)) :
    (offerDrive hook drive : Action (Session σ × τ) ε Bool) (before, seen) =
      (.ok false, (middle, seen)) := by
  have aside : (beside (Action.caught (recordOf drive)) :
      Action (Session σ × τ) ε (Except DiskError Geometry)) (before, seen) =
        (.ok (.error cause), (middle, seen)) := by
    simp only [beside, Action.onPart, Action.caught, failed]
  rw [offerDrive, Action.bind_of_ok aside]
  rfl

theorem offerDrive_of_fault {reason : Fault}
    (faulted : recordOf drive before = (.fault reason, middle)) :
    (offerDrive hook drive : Action (Session σ × τ) ε Bool) (before, seen) =
      (.fault reason, (middle, seen)) := by
  simp only [offerDrive, Action.bind_apply, beside, Action.onPart, Action.caught, faulted]

theorem offerDrives_cons (rest : List DriveNumber) {pair : Session σ × τ} :
    (offerDrives hook (drive :: rest) : Action (Session σ × τ) ε Bool) pair =
      match (offerDrive hook drive : Action (Session σ × τ) ε Bool) pair with
      | (.ok true, after) => (.ok true, after)
      | (.ok false, after) => offerDrives hook rest after
      | (.error cause, after) => (.error cause, after)
      | (.fault reason, after) => (.fault reason, after) := by
  rw [offerDrives, Action.bind_apply]
  rcases (offerDrive hook drive : Action (Session σ × τ) ε Bool) pair with
    ⟨(_ | _) | _ | _, _⟩ <;> rfl

/-- What a caller hears of the drives of a tour decides how offering them ends. -/
theorem Tour.offerDrives (tour : Tour drives before reached fault after)
    (boot : before.settings.bootDrive = bootDrive)
    (heard : Heard hook (offered bootDrive reached) seen calls last stop) :
    (offerDrives hook drives : Action (Session σ × τ) ε Bool) (before, seen) =
      ((conclude stop fault after).1,
        ((conclude stop fault after : Outcome ε Bool × _).2, last)) := by
  induction tour generalizing seen calls with
  | done =>
    cases heard
    rfl
  | @reached drive _ _ middle _ _ _ turn _ ih =>
    obtain ⟨record, met⟩ := turn.met
    have same : middle.settings.bootDrive = bootDrive := by rw [turn.settings, boot]
    rw [offerDrives_cons, offerDrive_of_ok met, same]
    rw [offered, List.flatMap_cons, namesOf, List.map_cons, List.cons_append] at heard
    cases heard with
    | enough answer => simp only [answer, conclude]
    | more answer heard =>
      simp only [answer]
      by_cases own : drive = bootDrive
      · rw [if_pos own, List.map_cons, List.map_nil, List.cons_append, List.nil_append] at heard
        rw [if_pos own]
        cases heard with
        | enough again => simp only [again, conclude]
        | more again heard =>
          simp only [again]
          exact ih same heard
      · rw [if_neg own, List.map_nil, List.nil_append] at heard
        rw [if_neg own]
        exact ih same heard
  | passed turn _ ih =>
    obtain ⟨cause, failed⟩ := turn.missed
    rw [offerDrives_cons, offerDrive_of_error failed]
    exact ih (by rw [turn.settings, boot]) heard
  | @broken drive _ before reason channel unknown faulted =>
    cases heard
    have met : recordOf drive before = (.fault reason, { before with channel }) := by
      rw [recordOf_unknown unknown, Action.bind_apply, onChannel, Action.onPart, faulted]
    rw [offerDrives_cons, offerDrive_of_fault met]
    rfl

theorem Enumerated.exists (session : Session σ) :
    ∃ reached fault after, Enumerated session reached fault after := by
  obtain ⟨first, fault, middle, tour⟩ := Tour.exists session.fixedAndOptical session
  cases fault with
  | some reason => exact ⟨first, some reason, middle, .broken tour⟩
  | none =>
    rcases counted : Firmware.floppyCount middle.channel.firmware with ⟨count, firmware⟩
    obtain ⟨second, fault, after, floppies⟩ :=
      Tour.exists (floppyDrives session.settings.bootDrive count)
        { middle with channel := { middle.channel with firmware } }
    exact ⟨_, fault, after, .whole tour counted floppies⟩

theorem Enumerated.faults {session : Session σ} (enumerated : Enumerated session reached fault after)
    (reason : Fault) (same : fault = some reason) : Firmware.Faults σ reason := by
  cases enumerated with
  | broken tour => exact tour.faults reason same
  | whole _ _ floppies => exact floppies.faults reason same

/-- The drives that are reached are among those that are looked at, once each. -/
theorem Enumerated.nodup {session : Session σ} (valid : session.settings.check = .ok ())
    (enumerated : Enumerated session reached fault after) : (reached.map Prod.fst).Nodup := by
  cases enumerated with
  | broken tour =>
    exact (nodup_candidates valid 0 0).sublist
      (tour.sublist.trans (List.sublist_append_left _ _))
  | whole tour _ floppies =>
    rw [List.map_append]
    exact (nodup_candidates valid _ _).sublist (tour.sublist.append floppies.sublist)

theorem floppyCount_beside {count : UInt8} {firmware : σ}
    (counted : Firmware.floppyCount before.channel.firmware = (count, firmware)) (seen : τ) :
    (beside (onChannel (Channel.ask fun firmware =>
      let (count, after) := Firmware.floppyCount firmware
      (.ok count, after))) : Action (Session σ × τ) ε UInt8) (before, seen) =
        (.ok count, ({ before with channel := { before.channel with firmware } }, seen)) := by
  simp only [beside, Action.onPart, onChannel, Channel.ask, counted]

/-- What a caller hears of an enumeration decides how it ends. -/
theorem Enumerated.iterate {session : Session σ}
    (enumerated : Enumerated session reached fault after)
    (heard : Heard hook (offered session.settings.bootDrive reached) seen calls last stop) :
    (iterate hook : Action (Session σ × τ) ε Bool) (session, seen) =
      ((conclude stop fault after).1,
        ((conclude stop fault after : Outcome ε Bool × _).2, last)) := by
  rw [Session.iterate, Action.look_bind, Action.bind_apply]
  cases enumerated with
  | broken tour =>
    rw [tour.offerDrives rfl heard]
    cases stop <;> rfl
  | whole tour counted floppies =>
    rw [offered, List.flatMap_append] at heard
    obtain ⟨left, rfl, part⟩ | ⟨middle, front, back, part, other, -⟩ := heard.split
    · rw [tour.offerDrives rfl part]
      rfl
    · have boot := congrArg Settings.bootDrive tour.settings
      rw [tour.offerDrives rfl part]
      exact (Action.bind_of_ok (floppyCount_beside counted middle)).trans
        (floppies.offerDrives boot other)

end Offers

/-- What an enumeration offers, for any firmware, valid settings, session and caller. The drives are
looked at in order: the fixed disks from 0x80 on, the optical drive if its number is behind theirs,
and the floppy drives from 0 on. Those that have a record, or get one from a probe at their turn, make
up one sequence of names in which none comes twice, and where the second name of the drive that the
machine started from follows its first. A caller hears the beginning of the sequence up to the first
name that is enough, and then the session is as it was when that name was offered; one that never has
enough hears all of it. Only a fault of the firmware itself cuts the sequence short. -/
theorem iterate_offers {session : Session σ} (valid : session.settings.check = .ok ()) :
    (∃ reached fault after, Enumerated session reached fault after ∧
      (∀ reason, fault = some reason → Firmware.Faults σ reason) ∧
      let offers := offered session.settings.bootDrive reached
      (offers.map Prod.fst).Nodup ∧
      ∀ {τ ε : Type} (hook : Hook τ) (seen : τ), ∃ calls last stop,
        Heard hook offers seen calls last stop ∧
        calls <+: offers.map Prod.fst ∧
        ((∀ name seen, (hook name seen).1 = false) →
          stop = none ∧ calls = offers.map Prod.fst) ∧
        let ending : Outcome ε Bool × Session σ := conclude stop fault after
        iterate hook (session, seen) = (ending.1, (ending.2, last)) ∧
        iterate hook.logged (session, (seen, [])) = (ending.1, (ending.2, (last, calls)))) ∧
    session.fixedAndOptical.map UInt8.toNat =
      List.range' 0x80 session.settings.fixedDiskCount ++
        (session.opticalDrive.toList.map UInt8.toNat).filter
          (0x80 + session.settings.fixedDiskCount ≤ ·) ∧
    ∀ count : UInt8, (floppyDrives session.settings.bootDrive count).map UInt8.toNat =
      List.range (min 0x80
        (if session.settings.bootDrive = 0 ∧ count = 0 then 1 else count.toNat)) := by
  refine ⟨?_, fixedAndOptical_toNat valid, floppyDrives_toNat _⟩
  obtain ⟨reached, fault, after, enumerated⟩ := Enumerated.exists session
  refine ⟨reached, fault, after, enumerated, enumerated.faults, ?_⟩
  intro offers
  have once : (offers.map Prod.fst).Nodup := by
    rw [offered_names]
    exact nodup_names (enumerated.nodup valid)
  refine ⟨once, ?_⟩
  intro τ ε hook seen
  obtain ⟨calls, last, stop, heard⟩ := Heard.exists hook offers seen
  refine ⟨calls, last, stop, heard, heard.begins, heard.all, enumerated.iterate heard, ?_⟩
  have logged := heard.logged []
  rw [List.nil_append] at logged
  exact enumerated.iterate logged

/-- A session that started from an optical disc, in a machine whose hard disk fails at first. -/
def startedFromDisc : Session Machine where
  channel := {
    firmware := (Machine.attach {} 0x80 faultyDrive).attach 0xe0
      (.optical { store := .memory { totalSectors := 64 } })
    staging := Staging.empty 0x6800 }
  settings := { bootDrive := 0xe0, fixedDiskCount := 2 }
  opticalDrive := some 0xe0

/-- The hard disk is passed over, and a caller that waits for the drive that the machine started from
hears both of its names. -/
theorem iterate_offers_disc :
    ∃ reached fault after last left, Enumerated startedFromDisc reached fault after ∧
      Heard (.collecting (· == bootName)) (offered 0xe0 reached) [] ["hd96", "boot"] last
        (some left) := by
  obtain ⟨⟨reached, fault, after, enumerated, -, -, offers⟩, -⟩ :=
    @iterate_offers Machine _ startedFromDisc rfl
  obtain ⟨calls, last, stop, heard, -, -, ended, logged⟩ :=
    @offers _ DiskError (.collecting (· == bootName)) []
  have enough : (iterate (.collecting (· == bootName)) (startedFromDisc, []) :
      Outcome DiskError Bool × _).1 = .ok true := by decide +kernel
  have names : (iterate (Hook.collecting (· == bootName)).logged (startedFromDisc, ([], [])) :
      Outcome DiskError Bool × _).2.2.2 = ["hd96", "boot"] := by decide +kernel
  rw [ended] at enough
  rw [logged] at names
  dsimp only at names
  subst names
  cases stop with
  | some left => exact ⟨reached, fault, after, last, left, enumerated, heard⟩
  | none => cases fault <;> cases enough

end Session

end FirmwareDisk
