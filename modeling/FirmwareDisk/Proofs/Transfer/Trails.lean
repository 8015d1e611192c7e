import FirmwareDisk.Machine.Services
import FirmwareDisk.Proofs.Firmware.Transcript
import FirmwareDisk.Proofs.Geometry.Address
import FirmwareDisk.Proofs.Staging
import FirmwareDisk.Proofs.Transfer.Rungs

set_option autoImplicit false

namespace FirmwareDisk

/-- The request for the sectors of a rung, if they can be named. -/
def Rung.request (rung : Rung) (record : Geometry) (direction : Direction) (sector : Nat)
    (pointer : FarPointer) : Except DiskError Request :=
  match rung.mode with
  | .lba =>
    .ok (.block direction record.drive (DiskAddressPacket.encode {
      blocks := UInt16.ofNat rung.length
      buffer := pointer
      block := UInt64.ofNat sector }))
  | .chs =>
    match record.address sector with
    | .ok address => .ok (.chs direction record.drive address (UInt8.ofNat rung.length))
    | .error cause => .error cause

/-- Only a rung by address can have sectors that cannot be named. -/
theorem Rung.request_error {rung : Rung} {record : Geometry} {direction : Direction} {sector : Nat}
    {pointer : FarPointer} {cause : DiskError}
    (missing : rung.request record direction sector pointer = .error cause) :
    rung.mode = .chs ∧ cause = .outOfRange record.drive.name sector ∧
      record.address sector = .error (.outOfRange record.drive.name sector) := by
  unfold request at missing
  cases mode : rung.mode with
  | lba =>
    rw [mode] at missing
    cases missing
  | chs =>
    rw [mode] at missing
    cases found : record.address sector with
    | ok address =>
      simp only [found] at missing
      cases missing
    | error other =>
      simp only [found, Except.error.injEq] at missing
      rw [← missing, Geometry.address_error found]
      exact ⟨rfl, rfl, rfl⟩

namespace Transfer

/-- An attempt on a rung: what was asked of the firmware, and how that ended. -/
structure Try (record : Geometry) (direction : Direction) (sector : Nat)
    (pointer : FarPointer) where
  rung : Rung
  request : Request
  answer : Outcome Status Unit
  asked : rung.request record direction sector pointer = .ok request

variable {record : Geometry} {direction : Direction} {sector : Nat} {pointer : FarPointer}

/-- An attempt as the transcript has it: it lends the sectors of the rung, and no more. -/
def Try.exchange (attempt : Try record direction sector pointer) : Exchange where
  request := attempt.request
  lent := attempt.rung.length * sectorSize
  answer := attempt.answer

/-- What the transcript has of some attempts: one reset of the drive between one and the next. -/
def exchanges (tries : List (Try record direction sector pointer)) : List Exchange :=
  (tries.map Try.exchange).intersperse { request := .reset record.drive }

theorem exchanges_cons {first : Try record direction sector pointer}
    {tries : List (Try record direction sector pointer)} (nonempty : tries ≠ []) :
    exchanges (first :: tries) =
      first.exchange :: { request := .reset record.drive } :: exchanges tries := by
  obtain ⟨second, others, rfl⟩ := List.exists_cons_of_ne_nil nonempty
  rfl

/-- How a transfer ends after its last attempt: what it asks of the firmware once more, its outcome,
and the record that it leaves. -/
inductive Ending (record : Geometry) (direction : Direction) (sector : Nat) (pointer : FarPointer)
    (current : Geometry) (ladder : List Rung) (tries : List (Try record direction sector pointer)) :
    List Exchange → Outcome DiskError Nat → Geometry → Prop where
  | held (last : Try record direction sector pointer) (tried : tries.getLast? = some last)
      (answer : last.answer = .ok ()) :
      Ending record direction sector pointer current ladder tries [] (.ok last.rung.length)
        (last.rung.settle current)
  | exhausted (last : Try record direction sector pointer) (status : Status)
      (tried : tries.getLast? = some last) (answer : last.answer = .error status)
      (all : tries.map Try.rung = ladder) :
      Ending record direction sector pointer current ladder tries []
        (.error (Transfer.exhausted direction record.drive))
        (if tries.length = 1 then current else last.rung.settle current)
  | unaddressed (last : Try record direction sector pointer) (status : Status) (lowest : Rung)
      (tried : tries.getLast? = some last) (answer : last.answer = .error status)
      (next : ladder = tries.map Try.rung ++ [lowest]) (mode : lowest.mode = .chs)
      (missing : record.address sector = .error (.outOfRange record.drive.name sector)) :
      Ending record direction sector pointer current ladder tries
        [{ request := .reset record.drive }] (.error (.outOfRange record.drive.name sector))
        (lowest.settle current)
  | faulted (last : Try record direction sector pointer) (reason : Fault)
      (tried : tries.getLast? = some last) (answer : last.answer = .fault reason) :
      Ending record direction sector pointer current ladder tries [] (.fault reason)
        (if tries.length = 1 then current else last.rung.settle current)

/-- The attempts of a transfer: the first rungs of its ladder, all refused but for the last, and the
way in which that one ended the transfer. -/
structure Trail (record : Geometry) (direction : Direction) (sector : Nat) (pointer : FarPointer)
    (current : Geometry) (ladder : List Rung) (tries : List (Try record direction sector pointer))
    (trailing : List Exchange) (outcome : Outcome DiskError Nat) (after : Geometry) : Prop where
  begun : tries ≠ []
  climbs : tries.map Try.rung <+: ladder
  refused : ∀ attempt ∈ tries.dropLast, ∃ status, attempt.answer = .error status
  ending : Ending record direction sector pointer current ladder tries trailing outcome after

/-- The record after a refused attempt and some more: those begin on the rung next to it. -/
theorem settled_cons {current : Geometry} {next : Rung} {rest : List Rung}
    {first last : Try record direction sector pointer}
    {tries : List (Try record direction sector pointer)}
    (climbs : tries.map Try.rung <+: next :: rest) (tried : tries.getLast? = some last) :
    (if tries.length = 1 then next.settle current else last.rung.settle (next.settle current)) =
      if (first :: tries).length = 1 then current else last.rung.settle current := by
  cases tries with
  | nil => cases tried
  | cons second others =>
    have many : ¬ (first :: second :: others).length = 1 := by
      simp only [List.length_cons]
      omega
    rw [if_neg many]
    cases others with
    | nil =>
      simp only [List.getLast?_singleton, Option.some.injEq] at tried
      subst tried
      rw [List.map_cons, List.cons_prefix_cons] at climbs
      rw [climbs.1]
      rfl
    | cons third more =>
      have several : ¬ (second :: third :: more).length = 1 := by
        simp only [List.length_cons]
        omega
      rw [if_neg several]
      rfl

theorem Trail.single {current after : Geometry} (first : Try record direction sector pointer)
    (rest : List Rung) {trailing : List Exchange} {outcome : Outcome DiskError Nat}
    (ending : Ending record direction sector pointer current (first.rung :: rest) [first] trailing
      outcome after) :
    Trail record direction sector pointer current (first.rung :: rest) [first] trailing outcome
      after where
  begun := List.cons_ne_nil first []
  climbs := ⟨rest, rfl⟩
  refused := List.forall_mem_nil _
  ending := ending

/-- A refused attempt in front of a trail. -/
theorem Trail.cons {current after : Geometry} {next : Rung} {rest : List Rung}
    {tries : List (Try record direction sector pointer)} {trailing : List Exchange}
    {outcome : Outcome DiskError Nat} (first : Try record direction sector pointer)
    {status : Status} (answer : first.answer = .error status)
    (trail : Trail record direction sector pointer (next.settle current) (next :: rest) tries
      trailing outcome after) :
    Trail record direction sector pointer current (first.rung :: next :: rest) (first :: tries)
      trailing outcome after where
  begun := List.cons_ne_nil _ _
  climbs := by
    rw [List.map_cons, List.cons_prefix_cons]
    exact ⟨rfl, trail.climbs⟩
  refused := by
    cases tries with
    | nil => exact List.forall_mem_nil _
    | cons second others =>
      intro attempt member
      rw [List.dropLast_cons_cons] at member
      rcases List.mem_cons.mp member with same | later
      · exact ⟨status, by rw [same, answer]⟩
      · exact trail.refused attempt later
  ending := by
    have climbs := trail.climbs
    have further {last : Try record direction sector pointer} (tried : tries.getLast? = some last) :
        (first :: tries).getLast? = some last := by
      cases tries with
      | nil => cases tried
      | cons second others => rwa [List.getLast?_cons_cons]
    cases trail.ending with
    | held last tried answer => exact .held last (further tried) answer
    | exhausted last status tried answer all =>
      rw [settled_cons climbs tried]
      exact .exhausted last status (further tried) answer (by rw [List.map_cons, all])
    | unaddressed last status lowest tried answer next mode missing =>
      exact .unaddressed last status lowest (further tried) answer (by rw [next]; rfl) mode missing
    | faulted last reason tried answer =>
      rw [settled_cons climbs tried]
      exact .faulted last reason (further tried) answer

variable {σ : Type}

/-- A channel after a request that was answered: the staging buffer lies where it was. -/
structure Answered (before : Channel (Watched σ)) (exchange : Exchange)
    (after : Channel (Watched σ)) : Prop where
  pointer : after.staging.startPointer = before.staging.startPointer
  transcript : after.firmware.transcript = before.firmware.transcript ++ [exchange]

theorem lend_watched (channel : Channel (Watched σ)) (request : Request)
    (service : Action (Lent σ) Status Unit) {length : Nat} (room : length ≤ Staging.byteSize) :
    Answered channel
      { request
        lent := length
        answer := (Channel.lend length (Watched.served request service) channel).1 }
      (Channel.lend length (Watched.served request service) channel).2 where
  pointer := rfl
  transcript := by
    have lent := channel.staging.length_take_data room
    simp only [Channel.lend, Watched.served, lent]

variable [Firmware σ]

/-- An attempt whose sectors fit into the staging buffer and can be named is one request. -/
theorem attempt_watched (settings : Settings) {current : Geometry} {rung : Rung}
    {request : Request} (channel : Channel (Watched σ)) (settled : record.Settled current)
    (plain : current.optical = false) (mode : current.mode = rung.mode)
    (room : rung.length ≤ Staging.sectors)
    (asked : rung.request record direction sector channel.staging.startPointer = .ok request) :
    ∃ answer after,
      attempt settings current direction sector rung.length channel =
        (answer.mapError .retryable, after) ∧
      Answered channel { request, lent := rung.length * sectorSize, answer } after := by
  have reserved := Staging.checkRegion_of_le room
  have inside := Staging.mul_le_byteSize room
  unfold Rung.request at asked
  rw [attempt_of_plain settings plain, attemptSectors, Action.bind_apply]
  simp only [reserve, reserved, Action.mapError, Action.ofOutcome, Outcome.ofExcept, mode,
    settled.drive, settled.address]
  cases named : rung.mode with
  | lba =>
    rw [named] at asked
    simp only [Except.ok.injEq] at asked
    subst asked
    exact ⟨_, _, rfl, lend_watched channel _ _ inside⟩
  | chs =>
    rw [named] at asked
    cases found : record.address sector with
    | error cause =>
      simp only [found] at asked
      cases asked
    | ok address =>
      simp only [found, Except.ok.injEq] at asked
      subst asked
      exact ⟨_, _, rfl, lend_watched channel _ _ inside⟩

/-- An attempt whose sectors cannot be named asks the firmware for nothing. -/
theorem attempt_unaddressed (settings : Settings) {current : Geometry} {rung : Rung}
    {cause : DiskError} (channel : Channel (Watched σ)) (settled : record.Settled current)
    (plain : current.optical = false) (mode : current.mode = rung.mode)
    (room : rung.length ≤ Staging.sectors)
    (missing : rung.request record direction sector pointer = .error cause) :
    attempt settings current direction sector rung.length channel =
      (.error (.final cause), channel) := by
  have reserved := Staging.checkRegion_of_le room
  unfold Rung.request at missing
  rw [attempt_of_plain settings plain, attemptSectors, Action.bind_apply]
  simp only [reserve, reserved, Action.mapError, Action.ofOutcome, Outcome.ofExcept, mode,
    settled.address]
  cases named : rung.mode with
  | lba =>
    rw [named] at missing
    cases missing
  | chs =>
    rw [named] at missing
    cases found : record.address sector with
    | ok address =>
      simp only [found] at missing
      cases missing
    | error cause' =>
      simp only [found, Except.error.injEq] at missing
      subst missing
      rfl

/-- An attempt that the staging buffer has no room for asks the firmware for nothing. -/
theorem attempt_no_room (settings : Settings) {current : Geometry} (direction : Direction)
    (sector : Nat) {length : Nat} (channel : Channel σ) (plain : current.optical = false)
    (much : Staging.sectors < length) :
    ∃ cause, attempt settings current direction sector length channel =
      (.error (.final cause), channel) := by
  obtain ⟨cause, refused⟩ := Staging.checkRegion_of_lt much
  refine ⟨cause, ?_⟩
  rw [attempt_of_plain settings plain, attemptSectors, Action.bind_apply]
  simp only [reserve, refused, Action.mapError, Action.ofOutcome, Outcome.ofExcept,
    Outcome.mapError]

theorem transcript_lowered (rung : Rung) (link : Link (Watched σ)) :
    (lowered rung link).transcript =
      link.transcript ++ [{ request := .reset link.record.drive }] := rfl

/-- What `descend` asks of the firmware, from a rung on whose sectors can be named. -/
theorem descend_trail (settings : Settings) {rung : Rung} {below : List Rung} {request : Request}
    (link : Link (Watched σ)) (settled : record.Settled link.record)
    (plain : record.optical = false) (mode : link.record.mode = rung.mode)
    (room : ∀ lower ∈ rung :: below, lower.length ≤ Staging.sectors)
    (same : link.channel.staging.startPointer = pointer)
    (bottom : ∀ lower rest cause, lower :: rest <:+ below →
      lower.request record direction sector pointer = .error cause → rest = [])
    (asked : rung.request record direction sector pointer = .ok request) :
    ∃ tries trailing,
      (descend settings direction sector rung below link).2.transcript =
        link.transcript ++ (exchanges tries ++ trailing) ∧
      Trail record direction sector pointer link.record (rung :: below) tries trailing
        (descend settings direction sector rung below link).1
        (descend settings direction sector rung below link).2.record := by
  obtain ⟨answer, channel, run, answered⟩ := attempt_watched settings link.channel settled
    (settled.optical.trans plain) mode (room rung List.mem_cons_self) (by rwa [same])
  let first : Try record direction sector pointer := { rung, request, answer, asked }
  rw [descend_eq, run]
  cases answer with
  | ok =>
    exact ⟨[first], [], answered.transcript, .single first below (.held first rfl rfl)⟩
  | fault reason =>
    exact ⟨[first], [], answered.transcript,
      .single first below (.faulted first reason rfl rfl)⟩
  | error status =>
    cases below with
    | nil =>
      rw [settled.drive]
      exact ⟨[first], [], answered.transcript,
        .single first [] (.exhausted first status rfl rfl rfl)⟩
    | cons next rest =>
      dsimp only [Outcome.mapError]
      -- The rungs below start on the reset drive, with the record settled on the next of them.
      have still : record.Settled (lowered next { link with channel }).record :=
        settled.trans (.settle next link.record)
      have asks : (lowered next { link with channel }).transcript =
          link.transcript ++ [first.exchange, { request := .reset record.drive }] := by
        rw [transcript_lowered, settled.drive, Link.transcript, answered.transcript,
          List.append_assoc]
        rfl
      have placed : channel.staging.startPointer = pointer := by rw [answered.pointer, same]
      have narrow (other : Rung) (member : other ∈ next :: rest) :
          other.length ≤ Staging.sectors := room other (List.mem_cons_of_mem rung member)
      cases further : next.request record direction sector pointer with
      | error cause =>
        have stuck := attempt_unaddressed settings (lowered next { link with channel }).channel
          still (still.optical.trans plain) rfl (narrow next List.mem_cons_self) further
        obtain ⟨byAddress, rfl, missing⟩ := Rung.request_error further
        have last : rest = [] := bottom next rest _ (List.suffix_refl _) further
        rw [descend_eq, stuck, last]
        exact ⟨[first], [{ request := .reset record.drive }], asks,
          .single first [next] (.unaddressed first status next rfl rfl rfl byAddress missing)⟩
      | ok later =>
        obtain ⟨tries, trailing, more, trail⟩ := descend_trail settings
          (lowered next { link with channel }) still plain rfl narrow placed
          (fun lower rest cause suffix => bottom lower rest cause
            (suffix.trans (List.suffix_cons _ _))) further
        refine ⟨first :: tries, trailing, ?_, trail.cons first rfl⟩
        rw [more, asks, exchanges_cons trail.begun, List.append_assoc]
        rfl
termination_by below.length
decreasing_by
  subst_vars
  exact Nat.lt_succ_self rest.length

/-- Only the last rung of a ladder can be one whose sectors cannot be named, if the first can be. -/
theorem request_below {rung lower : Rung} {rest : List Rung} {request : Request} {cause : DiskError}
    (asked : rung.request record direction sector pointer = .ok request)
    (suffix : lower :: rest <:+ rung.below record)
    (missing : lower.request record direction sector pointer = .error cause) : rest = [] := by
  obtain ⟨byAddress, -, absent⟩ := Rung.request_error missing
  unfold Rung.below at suffix
  cases mode : rung.mode with
  | lba =>
    rw [mode, if_pos rfl] at suffix
    rcases Rung.mem_of_suffix suffix with short | last
    · obtain ⟨length, -, rfl⟩ := List.mem_map.mp short
      rw [mode] at byAddress
      cases byAddress
    · exact last
  | chs =>
    unfold Rung.request at asked
    simp only [mode, absent] at asked
    cases asked

end Transfer

section

variable {σ : Type} [Firmware σ] (settings : Settings) (direction : Direction) (sector : Nat)
  {count : Nat} (link : Link (Watched σ))

/-- A first rung that is too long, or whose sector has no address, ends a transfer at once. -/
theorem transfer_impossible (plain : link.record.optical = false) (wanted : 1 ≤ count)
    (hopeless : Staging.sectors < (Rung.top link.record sector count).length ∨
      link.record.mode = .chs ∧ ∃ cause, link.record.address sector = .error cause) :
    ∃ cause, transfer settings direction sector count link = (.error cause, link) := by
  rw [transfer_eq_descend settings direction sector link plain wanted]
  by_cases much : Staging.sectors < (Rung.top link.record sector count).length
  · obtain ⟨cause, final⟩ := Transfer.attempt_no_room settings direction sector link.channel
      plain much
    exact ⟨cause, Transfer.descend_of_final _ final⟩
  · obtain ⟨byAddress, cause, missing⟩ := hopeless.resolve_left much
    have absent : (Rung.top link.record sector count).request link.record direction sector
        link.channel.staging.startPointer = .error cause := by
      rw [Rung.request, Rung.top, byAddress]
      simp only [missing]
    have final := Transfer.attempt_unaddressed settings link.channel (.refl link.record) plain rfl
      (Nat.not_lt.mp much) absent
    exact ⟨cause, Transfer.descend_of_final _ final⟩

/-- A transfer whose first rung can be tried leaves a trail of attempts down its ladder. -/
theorem transfer_trail (plain : link.record.optical = false) (wanted : 1 ≤ count)
    (room : (Rung.top link.record sector count).length ≤ Staging.sectors)
    (named : link.record.mode = .chs → ∃ address, link.record.address sector = .ok address) :
    ∃ tries trailing,
      (transfer settings direction sector count link).2.transcript =
        link.transcript ++ (Transfer.exchanges tries ++ trailing) ∧
      Transfer.Trail link.record direction sector link.channel.staging.startPointer link.record
        (Rung.ladder link.record sector count) tries trailing
        (transfer settings direction sector count link).1
        (transfer settings direction sector count link).2.record := by
  have highest := @Rung.top_length link.record sector count wanted
  have narrow (lower : Rung) (member : lower ∈ Rung.ladder link.record sector count) :
      lower.length ≤ Staging.sectors := by
    rcases List.mem_cons.mp member with same | below
    · rw [same]
      exact room
    · exact Nat.le_trans (Rung.below_length highest.1 below).2 room
  rw [transfer_eq_descend settings direction sector link plain wanted]
  cases found : (Rung.top link.record sector count).request link.record direction sector
      link.channel.staging.startPointer with
  | ok request =>
    exact Transfer.descend_trail settings link (.refl link.record) plain rfl narrow rfl
      (fun lower rest cause suffix => Transfer.request_below found suffix) found
  | error cause =>
    obtain ⟨byAddress, -, missing⟩ := Rung.request_error found
    obtain ⟨address, present⟩ := named byAddress
    rw [present] at missing
    cases missing

end

/-- What any firmware sees of a transfer from or to a drive that is not the optical one. The first
rung is as long as the request, the record's cap and, by address, the track allow; if the staging
buffer or an address has no room for it, nothing happens. Otherwise the attempts are the first rungs
of the ladder, and `Transfer.Trail` says how they follow each other and what they come to. -/
theorem transfer_degrades {σ : Type} [Firmware σ] (settings : Settings) (direction : Direction)
    (sector : Nat) {count : Nat} (link : Link σ) (plain : link.record.optical = false)
    (wanted : 1 ≤ count) :
    let record := link.record
    let run := transfer settings direction sector count link.watched
    let longest :=
      min (if record.mode = .chs then min count (record.restOfTrack sector) else count)
        (max 1 record.cap)
    let ladder : List Rung :=
      { mode := record.mode, cap := max 1 record.cap, length := longest } ::
        ([63, 7, 1].filter (· < longest)).map (fun length =>
          { mode := record.mode, cap := length, length }) ++
        (if record.mode = .lba then [{ mode := .chs, cap := max 1 record.chsCap, length := 1 }]
          else [])
    let impossible := Staging.sectors < longest ∨
      record.mode = .chs ∧ ∃ cause, record.address sector = .error cause
    transfer settings direction sector count link = (run.1, run.2.map Watched.firmware) ∧
      ladder.length ≤ 5 ∧ ladder.Pairwise Rung.Lower ∧
      (impossible → ∃ cause, run = (.error cause, link.watched)) ∧
      (¬ impossible → ∃ tries trailing,
        run.2.transcript = Transfer.exchanges tries ++ trailing ∧
        Transfer.Trail record direction sector link.channel.staging.startPointer record ladder
          tries trailing run.1 run.2.record ∧
        ∀ moved, run.1 = .ok moved → 1 ≤ moved ∧ moved ≤ count) := by
  intro record run longest ladder impossible
  refine ⟨transfer_watched settings direction sector count link,
    Rung.length_ladder_le record sector count, Rung.ladder_pairwise wanted, ?_, ?_⟩
  · exact transfer_impossible settings direction sector link.watched plain wanted
  · intro possible
    have room : longest ≤ Staging.sectors := Nat.not_lt.mp fun much => possible (Or.inl much)
    have named (byAddress : record.mode = .chs) :
        ∃ address, record.address sector = .ok address := by
      cases found : record.address sector with
      | ok address => exact ⟨address, rfl⟩
      | error cause => exact (possible (Or.inr ⟨byAddress, cause, found⟩)).elim
    obtain ⟨tries, trailing, asks, trail⟩ :=
      transfer_trail settings direction sector link.watched plain wanted room named
    refine ⟨tries, trailing, asks, trail, ?_⟩
    intro moved held
    exact transfer_moved wanted (Prod.ext held rfl)

/-- A link to a drive of a machine without drives, as if its record had been made before the drive
was taken away. -/
def silentLink : Link Machine where
  record := {
    drive := 0x80
    mode := .lba
    optical := false
    fbOverride := false
    sectors := 63
    heads := 255
    cylinders := 1
    cap := 127
    chsCap := 63
    totalSectors := 16065 }
  channel := { firmware := {}, staging := Staging.empty 0x6800 }

/-- A read of 200 sectors is tried five times, with a reset after each refusal but the last. -/
theorem transfer_degrades_silent :
    let run := transfer {} .read 7 200 silentLink.watched
    let refused : Bool × Outcome Status Unit := (false, .error .timeout)
    let reset : Bool × Outcome Status Unit := (true, .ok ())
    ∃ tries : List (Transfer.Try silentLink.record .read 7 silentLink.channel.staging.startPointer),
      tries.map Transfer.Try.rung = [
        { mode := .lba, cap := 127, length := 127 }, { mode := .lba, cap := 63, length := 63 },
        { mode := .lba, cap := 7, length := 7 }, { mode := .lba, cap := 1, length := 1 },
        { mode := .chs, cap := 63, length := 1 }] ∧
      run.2.transcript = Transfer.exchanges tries ∧
      run.2.transcript.map
          (fun exchange => (decide (exchange.request = .reset 0x80), exchange.answer)) =
        [refused, reset, refused, reset, refused, reset, refused, reset, refused] ∧
      run.1 = .error (.readFailed "hd0") := by
  intro run refused reset
  obtain ⟨-, -, -, -, attempts⟩ := transfer_degrades {} .read 7 silentLink rfl
    (show 1 ≤ 200 by decide)
  have possible : ¬ (Staging.sectors < min 200 (max 1 127) ∨
      Addressing.lba = .chs ∧ ∃ cause, silentLink.record.address 7 = .error cause) := by
    rintro (much | ⟨byAddress, -⟩)
    · revert much
      decide
    · cases byAddress
  obtain ⟨tries, trailing, asks, trail, -⟩ := attempts possible
  have lost : run.1 = .error (.readFailed "hd0") := by decide +kernel
  have ending := trail.ending
  change Transfer.Ending _ _ _ _ _ _ _ _ run.1 run.2.record at ending
  rw [lost] at ending
  generalize run.2.record = last at ending
  cases ending with
  | exhausted _ _ _ _ all =>
    refine ⟨tries, all, asks.trans (List.append_nil _), ?_, lost⟩
    decide +kernel

end FirmwareDisk
