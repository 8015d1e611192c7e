import FirmwareDisk.Proofs.Transfer.Acceptance

set_option autoImplicit false

namespace FirmwareDisk

/-- Whether an exchange was refused. -/
def Exchange.refused (exchange : Exchange) : Bool :=
  match exchange.answer with
  | .error _ => true
  | _ => false

/-- A transfer of `length` sectors that a drive is asked for in a mode. -/
inductive Exchange.Tries (number : DriveNumber) (length : Nat) : Addressing → Exchange → Prop where
  | linear (direction : Direction) (packet : Bytes) (answer : Outcome Status Unit) :
      Tries number length .lba
        { request := .block direction number packet, lent := length * sectorSize, answer }
  | byAddress (direction : Direction) (address : Chs) (count : UInt8)
      (answer : Outcome Status Unit) :
      Tries number length .chs
        { request := .chs direction number address count, lent := length * sectorSize, answer }

theorem Exchange.Tries.lent {number : DriveNumber} {length : Nat} {mode : Addressing}
    {exchange : Exchange} (tries : exchange.Tries number length mode) :
    exchange.lent = length * sectorSize := by
  cases tries with
  | linear => rfl
  | byAddress => rfl

namespace Rung

variable {rung : Rung} {record : Geometry} {direction : Direction} {sector : Nat}
  {pointer : FarPointer}

theorem request_tries {request : Request}
    (asked : rung.request record direction sector pointer = .ok request)
    (answer : Outcome Status Unit) :
    Exchange.Tries record.drive rung.length rung.mode
      { request, lent := rung.length * sectorSize, answer } := by
  unfold Rung.request at asked
  cases mode : rung.mode with
  | lba =>
    simp only [mode, Except.ok.injEq] at asked
    subst asked
    exact .linear direction _ answer
  | chs =>
    simp only [mode] at asked
    cases found : record.address sector with
    | error cause =>
      simp only [found] at asked
      cases asked
    | ok address =>
      simp only [found, Except.ok.injEq] at asked
      subst asked
      exact .byAddress direction address _ answer

end Rung

namespace Drive

variable {drive held : Drive} {count most : Nat}

theorem Accepted.below (accepted : drive.Accepted count held)
    (calm : drive.transientFailures = 0) (ceiling : drive.ceiling = some most) : count ≤ most := by
  have granted := accepted.accepted
  unfold accept at granted
  simp only [calm, ceiling, Option.any_some, decide_eq_true_eq] at granted
  split at granted
  · cases granted
  · omega

theorem Declined.above (declined : drive.Declined count held)
    (calm : drive.transientFailures = 0) (ceiling : drive.ceiling = some most) :
    most < count ∧ held = drive := by
  obtain ⟨status, refused⟩ := declined
  unfold accept at refused
  simp only [calm, ceiling, Option.any_some, decide_eq_true_eq] at refused
  split at refused
  · rename_i long
    simp only [Prod.mk.injEq] at refused
    exact ⟨long, refused.2.symm⟩
  · cases refused

end Drive

namespace Transfer

variable {drive : Drive} {sector : Nat}

/-- An attempt on a watched drive in order leaves one exchange in the transcript. -/
theorem attempt_heard (settings : Settings) (direction : Direction) {rung : Rung}
    {link : Link (Watched Machine)} (commands : (link.map Watched.firmware).Commands drive)
    (mode : link.record.mode = rung.mode) (positive : 0 < rung.length) (few : rung.length ≤ 127)
    (track : rung.mode = .chs → rung.length ≤ link.record.restOfTrack sector)
    (has : drive.Has rung.mode sector rung.length) :
    Action.Ends (attempt settings link.record direction sector rung.length) link.channel
      (fun _ after => ∃ held exchange,
        after.firmware.firmware.drive? link.record.drive = some held ∧
        drive.Accepted rung.length held ∧
        after.firmware.transcript = link.transcript ++ [exchange] ∧
        exchange.Tries link.record.drive rung.length rung.mode ∧ exchange.refused = false)
      (fun refusal after => (∃ status, refusal = .retryable status) ∧ ∃ held exchange,
        after.firmware.firmware.drive? link.record.drive = some held ∧
        drive.Declined rung.length held ∧
        after.firmware.transcript = link.transcript ++ [exchange] ∧
        exchange.Tries link.record.drive rung.length rung.mode ∧ exchange.refused = true)
      (fun _ _ => False) := by
  have plain : link.record.optical = false := commands.reaches.plain
  have answered := Action.Simulates.ends
    (simulates_attempt Watched.simulation settings link.record direction sector rung.length)
    (attempt_answered settings direction commands positive few
      (by rw [← mode] at track; exact track) (by rw [← mode] at has; exact has))
  have request : ∃ request, rung.request link.record direction sector
      link.channel.staging.startPointer = .ok request := by
    unfold Rung.request
    cases named : rung.mode with
    | lba => exact ⟨_, rfl⟩
    | chs =>
      obtain ⟨address, found, -⟩ := commands.reaches.describes.serves positive few (track named)
        (has.addressed named)
      have same : link.record.address sector = .ok address := found
      simp only [same]
      exact ⟨_, rfl⟩
  obtain ⟨request, asked⟩ := request
  obtain ⟨answer, after, run, heard⟩ := attempt_watched settings link.channel (.refl link.record)
    plain mode (Nat.le_succ_of_le few) asked
  have tries := Rung.request_tries asked answer
  unfold Action.Ends at answered ⊢
  rw [run] at answered ⊢
  cases answer with
  | ok value =>
    obtain ⟨held, attached, accepted⟩ := answered
    exact ⟨held, _, attached, accepted, heard.transcript, tries, rfl⟩
  | error status =>
    obtain ⟨again, held, attached, declined⟩ := answered
    exact ⟨again, held, _, attached, declined, heard.transcript, tries, rfl⟩
  | fault reason => exact answered

/-- What a transfer has asked of a drive that moves `most` sectors at once, when it comes to a rung and
those below it. -/
structure Descent (link : Link (Watched Machine)) (drive : Drive) (most sector count : Nat)
    (rung : Rung) (below : List Rung) (asked : List Exchange) (lower : Link (Watched Machine)) :
    Prop where
  commands : (lower.map Watched.firmware).Commands drive
  settled : link.record.Settled lower.record
  current : lower.record.mode = rung.mode
  mode : rung.mode = link.record.mode
  listed : ∀ other ∈ rung :: below, other ∈ Rung.ladder link.record sector count
  rest : below = rung.below link.record
  transcript : lower.transcript = link.transcript ++ asked
  heard : ∀ exchange ∈ asked, exchange = { request := .reset link.record.drive } ∨
    ∃ length, exchange.Tries link.record.drive length link.record.mode
  few : asked.countP Exchange.refused + rung.shorter.length ≤ 3
  cap : 1 ≤ rung.cap ∧ rung.cap ≤ 127
  begun : rung = Rung.top link.record sector count ∧ asked = [] ∨
    rung.cap = rung.length ∧ most < link.record.cap

/-- What a transfer asks of a drive that moves `most` sectors at once, and what the record learns from
it. -/
structure Lesson (number : DriveNumber) (most : Nat) (before : Geometry) (asked : List Exchange)
    (after : Geometry) : Prop where
  settled : before.Settled after
  mode : after.mode = before.mode
  cap : 1 ≤ after.cap ∧ after.cap ≤ 127
  heard : ∀ exchange ∈ asked, exchange = { request := .reset number } ∨
    ∃ length, exchange.Tries number length before.mode
  few : asked.countP Exchange.refused ≤ 3
  learned : (∃ exchange ∈ asked, exchange.refused = true) → after.cap ≤ most
  known : before.cap ≤ most → after.cap ≤ most ∧
    ∀ exchange ∈ asked, exchange.refused = false ∧ exchange.lent ≤ most * sectorSize

theorem Lesson.nothing (number : DriveNumber) (most : Nat) {record : Geometry}
    (cap : 1 ≤ record.cap ∧ record.cap ≤ 127) : Lesson number most record [] record where
  settled := .refl record
  mode := rfl
  cap := cap
  heard := List.forall_mem_nil _
  few := Nat.zero_le 3
  learned := by
    rintro ⟨_, nothing, -⟩
    cases nothing
  known enough := ⟨enough, List.forall_mem_nil _⟩

variable {link lower : Link (Watched Machine)} {most count : Nat} {rung : Rung}
  {below : List Rung} {asked : List Exchange}

/-- A rung that holds ends the lesson. -/
theorem Descent.held (descent : Descent link drive most sector count rung below asked lower)
    (allowed : 1 ≤ link.record.cap) (holds : rung.length ≤ most)
    {exchange : Exchange}
    (tries : exchange.Tries link.record.drive rung.length rung.mode)
    (granted : exchange.refused = false) :
    Lesson link.record.drive most link.record (asked ++ [exchange]) (rung.settle lower.record) where
  settled := descent.settled.trans (.settle rung lower.record)
  mode := descent.mode
  cap := descent.cap
  heard other member := by
    rcases List.mem_append.mp member with before | last
    · exact descent.heard other before
    · rw [List.mem_singleton] at last
      rw [last]
      exact Or.inr ⟨rung.length, descent.mode ▸ tries⟩
  few := by
    have few := descent.few
    rw [List.countP_append, List.countP_singleton, granted]
    simp only [Bool.false_eq_true, ↓reduceIte]
    omega
  learned := by
    rintro ⟨other, member, refused⟩
    rcases descent.begun with ⟨-, nothing⟩ | ⟨cap, -⟩
    · rw [nothing, List.nil_append, List.mem_singleton] at member
      rw [member, granted] at refused
      cases refused
    · rw [Rung.settle]
      dsimp only
      omega
  known := by
    intro enough
    rcases descent.begun with ⟨top, nothing⟩ | ⟨-, more⟩
    · have length : rung.length ≤ rung.cap := by
        rw [top, Rung.top]
        exact Nat.min_le_right _ _
      have cap : rung.cap = link.record.cap := by
        rw [top, Rung.top]
        exact Nat.max_eq_right allowed
      refine ⟨by rw [Rung.settle, cap]; exact enough, ?_⟩
      intro other member
      rw [nothing, List.nil_append, List.mem_singleton] at member
      rw [member, tries.lent]
      exact ⟨granted, Nat.mul_le_mul_right sectorSize holds⟩
    · omega

/-- A rung that does not hold leads to the next one, in the same mode. -/
theorem Descent.refused (descent : Descent link drive most sector count rung below asked lower)
    (wanted : 0 < count) (allowed : 1 ≤ link.record.cap) (positive : 1 ≤ most)
    (long : most < rung.length)
    {exchange : Exchange} {channel : Channel (Watched Machine)}
    (attached : channel.firmware.firmware.drive? lower.record.drive = some drive)
    (transcript : channel.firmware.transcript = lower.transcript ++ [exchange])
    (tries : exchange.Tries link.record.drive rung.length rung.mode)
    (turned : exchange.refused = true) :
    ∃ next, below = next :: next.below link.record ∧
      Descent link drive most sector count next (next.below link.record)
        (asked ++ [exchange, { request := .reset link.record.drive }])
        (lowered next { lower with channel }) := by
  obtain ⟨next, same, mode, cap, bounds, fewer⟩ :=
    rung.below_of_long (by omega) link.record
  have rest := descent.rest.trans same
  refine ⟨next, rest, ?_⟩
  have highest := (Rung.ladder_bounds wanted (descent.listed rung List.mem_cons_self)).2.1
  -- No rung asks for more than the cap, and this one asks for more than the drive moves.
  have most_lt : most < link.record.cap := by
    rcases descent.begun with ⟨-, -⟩ | ⟨-, more⟩
    · simp only [Rung.top] at highest
      omega
    · exact more
  exact {
    commands := by
      refine descent.commands.spent (.settle next lower.record) attached ?_ ?_
      · exact .intro drive.medium drive.transientFailures (.refl drive.medium)
      · intro linear
        exact descent.current.trans (mode ▸ linear)
    settled := descent.settled.trans (.settle next lower.record)
    current := rfl
    mode := mode.trans descent.mode
    listed := by
      intro other member
      rw [← rest] at member
      exact descent.listed other (List.mem_cons_of_mem rung member)
    rest := rfl
    transcript := by
      rw [transcript_lowered, Link.transcript, transcript, descent.transcript,
        descent.settled.drive, List.append_assoc, List.append_assoc]
      rfl
    heard := by
      intro other member
      rcases List.mem_append.mp member with before | last
      · exact descent.heard other before
      · rcases List.mem_cons.mp last with here | reset
        · rw [here]
          exact Or.inr ⟨rung.length, descent.mode ▸ tries⟩
        · exact Or.inl (List.mem_singleton.mp reset)
    few := by
      have few := descent.few
      have reset : Exchange.refused { request := .reset link.record.drive } = false := rfl
      rw [List.countP_append, List.countP_cons, List.countP_singleton, turned, reset]
      simp only [Bool.false_eq_true, ↓reduceIte]
      omega
    cap := by
      rw [cap]
      omega
    begun := Or.inr ⟨cap, most_lt⟩ }

end Transfer

/-- A transfer of sectors that the drive has succeeds, and the record learns its lesson. -/
theorem transfer_learns {drive : Drive} {most sector count : Nat} (settings : Settings)
    (direction : Direction) (link : Link (Watched Machine))
    (commands : (link.map Watched.firmware).Commands drive)
    (calm : drive.transientFailures = 0) (ceiling : drive.ceiling = some most)
    (positive : 1 ≤ most) (cap : 1 ≤ link.record.cap ∧ link.record.cap ≤ 127)
    (has : drive.Has link.record.mode sector count) :
    Action.Ends (transfer settings direction sector count) link
      (fun moved after => moved ≤ Staging.sectors ∧ ∃ held asked,
        after.channel.firmware.firmware.drive? link.record.drive = some held ∧
        drive.Rewritten held ∧ after.transcript = link.transcript ++ asked ∧
        Transfer.Lesson link.record.drive most link.record asked after.record)
      (fun _ _ => False) (fun _ _ => False) := by
  have plain : link.record.optical = false := commands.reaches.plain
  by_cases nothing : count = 0
  · have moved : transfer settings direction sector count link = (.ok 0, link) := by
      rw [transfer, Action.look_bind, if_pos nothing]
      rfl
    rw [Action.Ends, moved]
    exact ⟨Nat.zero_le _, drive, [], commands.reaches.attached,
      ⟨drive.medium, rfl, .refl drive.medium⟩, (List.append_nil _).symm,
      .nothing link.record.drive most cap⟩
  have wanted : 0 < count := Nat.pos_of_ne_zero nothing
  apply Action.Ends.of_run (transfer_eq_descend settings direction sector link plain wanted)
  -- `Descent` is the invariant on the way down; a refusal never leads out of the mode.
  refine Transfer.descend_of_ready
    (fun rung below lower => ∃ asked,
      Transfer.Descent link drive most sector count rung below asked lower) ?_ ?_
  · intro rung below lower ready
    obtain ⟨asked, descent⟩ := ready
    have bounds := Rung.ladder_bounds wanted (descent.listed rung List.mem_cons_self)
    have highest := @Rung.top_length link.record sector count wanted
    have few := Rung.top_few cap.2 sector count
    have settled := descent.settled
    have tracks : lower.record.restOfTrack sector = link.record.restOfTrack sector := by
      obtain ⟨_, _, same⟩ := settled
      rw [same]
      rfl
    have within : drive.Has rung.mode sector rung.length := by
      rw [descent.mode]
      exact has.shorten (Nat.le_trans bounds.2.1 highest.2)
    refine (Transfer.attempt_heard settings direction descent.commands descent.current bounds.1
      (Nat.le_trans bounds.2.1 few) (tracks ▸ bounds.2.2) within).mono ?_ ?_
    · intro _ after heard
      obtain ⟨held, exchange, attached, accepted, transcript, tries, granted⟩ := heard
      rw [settled.drive] at attached tries
      refine ⟨by have limit : Staging.sectors = 128 := rfl; omega, held, asked ++ [exchange],
        attached, accepted.rewritten, ?_, ?_⟩
      · rw [Link.transcript, transcript, descent.transcript, List.append_assoc]
      · exact descent.held cap.1 (accepted.below calm ceiling) tries granted
    · intro refusal after heard
      obtain ⟨⟨status, rfl⟩, held, exchange, attached, declined, transcript, tries, turned⟩ := heard
      obtain ⟨long, rfl⟩ := declined.above calm ceiling
      rw [settled.drive] at tries
      obtain ⟨next, rest, further⟩ := descent.refused wanted cap.1 positive long attached transcript
        tries turned
      subst rest
      exact ⟨_, further⟩
  · exact ⟨[], {
      commands := commands
      settled := .refl link.record
      current := rfl
      mode := rfl
      listed := fun other member => member
      rest := rfl
      transcript := (List.append_nil _).symm
      heard := List.forall_mem_nil _
      few := by
        have three : (Rung.top link.record sector count).shorter.length ≤ 3 := by
          rw [Rung.shorter, List.length_map]
          exact List.length_filter_le _ _
        simpa using three
      cap := by
        simp only [Rung.top]
        omega
      begun := Or.inl ⟨rfl, rfl⟩ }⟩

end FirmwareDisk
