import FirmwareDisk.Proofs.Agreement
import FirmwareDisk.Proofs.Staging
import FirmwareDisk.Proofs.Transfer.Rungs

set_option autoImplicit false

namespace FirmwareDisk

variable {σ : Type}

/-- A service that moves sectors in some direction does the same in states that are alike. A buffer
that it is to fill may hold anything before; one that it takes bytes from has to hold the same. -/
def Direction.Moves (direction : Direction) (alike : σ → σ → Prop)
    (service : Action (Lent σ) Status Unit) : Prop :=
  ∀ first second : Lent σ, alike first.state second.state →
    first.buffer.length = second.buffer.length →
    (direction = .write → first.buffer = second.buffer) →
    Action.Agrees service first second
      (fun _ one two => alike one.state two.state ∧ one.buffer = two.buffer ∧
        (direction = .read → one.buffer.length = first.buffer.length))
      (fun one two => alike one.state two.state ∧ (direction = .write → one.buffer = two.buffer))

/-- The bytes at the start of the staging buffer that matter to a transfer: those that it has read,
or those that are held there to be written. -/
def Direction.shared (direction : Direction) (held moved : Nat) : Nat :=
  match direction with
  | .read => moved
  | .write => held

/-- States that are alike to the services of one drive: these answer the same, and leave states
behind that are alike again. -/
structure Firmware.Alike [Firmware σ] (number : DriveNumber) (alike : σ → σ → Prop) : Prop where
  chs (direction : Direction) (address : Chs) (count : UInt8) :
    direction.Moves alike (Firmware.chsTransfer direction number address count)
  block (direction : Direction) (packet : Bytes) :
    direction.Moves alike (Firmware.blockTransfer direction number packet)
  version (first second : σ) : alike first second →
    (Firmware.extensionsVersion number first).1 = (Firmware.extensionsVersion number second).1 ∧
      alike (Firmware.extensionsVersion number first).2 (Firmware.extensionsVersion number second).2
  extended (buffer : Bytes) (first second : σ) : alike first second →
    Action.Agrees (Firmware.extendedParameters number)
      { buffer, state := first } { buffer, state := second }
      (fun _ one two => alike one.state two.state ∧ one.buffer = two.buffer)
      (fun one two => alike one.state two.state)
  legacy (first second : σ) : alike first second →
    Action.Agrees (Firmware.legacyParameters number) first second (fun _ => alike) alike
  reset (first second : σ) : alike first second →
    alike (Firmware.reset number first) (Firmware.reset number second)

/-- Channels that differ in nothing but what lies behind the first `held` bytes of their staging
buffers. -/
structure Channel.Alike (alike : σ → σ → Prop) (segment : UInt16) (held : Nat)
    (first second : Channel σ) : Prop where
  firmware : alike first.firmware second.firmware
  here : first.staging.segment = segment
  there : second.staging.segment = segment
  staged : first.staging.data.take held = second.staging.data.take held

theorem Staging.take_fill_congr {first second : Staging} {patch : Bytes} {held : Nat}
    (room : patch.length ≤ byteSize) (same : first.data.take held = second.data.take held) :
    (first.fill 0 patch).data.take held = (second.fill 0 patch).data.take held := by
  rw [data_fill first patch room, data_fill second patch room, List.take_append, List.take_append]
  congr 1
  by_cases covered : held ≤ patch.length
  · rw [Nat.sub_eq_zero_of_le covered, List.take_zero, List.take_zero]
  · have rest : patch.length + (held - patch.length) = held := by omega
    rw [List.take_drop, List.take_drop, rest, same]

section Channels

variable {alike : σ → σ → Prop} {segment : UInt16} {held : Nat} {first second : Channel σ}

theorem Channel.Alike.shorten {less : Nat} (same : Channel.Alike alike segment held first second)
    (within : less ≤ held) : Channel.Alike alike segment less first second where
  firmware := same.firmware
  here := same.here
  there := same.there
  staged := by
    have shorter := congrArg (List.take less) same.staged
    rwa [List.take_take, List.take_take, Nat.min_eq_left within] at shorter

/-- A service that is lent the start of either staging buffer leaves channels that are alike. -/
theorem Channel.lend_agrees {direction : Direction} {service : Action (Lent σ) Status Unit}
    (moves : direction.Moves alike service) {length : Nat} (room : length ≤ Staging.byteSize)
    (inside : direction = .write → length ≤ held)
    (same : Channel.Alike alike segment (direction.shared held 0) first second) :
    Action.Agrees (lend length service) first second
      (fun _ => Channel.Alike alike segment (direction.shared held length))
      (Channel.Alike alike segment (direction.shared held 0)) := by
  have lent (staging : Staging) := staging.length_take_data room
  have filled (bytes : Bytes) : (bytes.take length).length ≤ Staging.byteSize := by
    rw [List.length_take]
    omega
  have served := moves (first.lent length) (second.lent length) same.firmware
    ((lent first.staging).trans (lent second.staging).symm)
  cases direction with
  | read =>
    refine ((served nofun).mono ?_ ?_).through (first.returned length) (second.returned length) rfl rfl
    · rintro _ one two ⟨still, bytes, size⟩
      refine ⟨still, same.here, same.there, ?_⟩
      have whole := (size rfl).trans (lent first.staging)
      have read (staging : Staging) := staging.take_fill one.buffer (by omega)
      rw [whole] at read
      simp only [Direction.shared, ← bytes, List.take_of_length_le (Nat.le_of_eq whole),
        read]
    · intro one two still
      exact ⟨still.1, same.here, same.there, rfl⟩
  | write =>
    have bytes : (first.lent length).buffer = (second.lent length).buffer := (same.shorten (inside rfl)).staged
    refine ((served fun _ => bytes).mono ?_ ?_).through (first.returned length) (second.returned length) rfl rfl
    · rintro _ one two ⟨still, left, -⟩
      refine ⟨still, same.here, same.there, ?_⟩
      simp only [← left]
      exact Staging.take_fill_congr (filled one.buffer) same.staged
    · rintro one two ⟨still, left⟩
      refine ⟨still, same.here, same.there, ?_⟩
      simp only [← left rfl]
      exact Staging.take_fill_congr (filled one.buffer) same.staged

end Channels

/-- Links with one record whose channels are alike. -/
structure Link.Alike (alike : σ → σ → Prop) (segment : UInt16) (number : DriveNumber) (held : Nat)
    (first second : Link σ) : Prop where
  record : first.record = second.record
  own : first.record.drive = number
  channel : first.channel.Alike alike segment held second.channel

namespace Transfer

variable {alike : σ → σ → Prop} {segment : UInt16} {held : Nat} {first second : Channel σ}

theorem reserve_bind_agrees {α : Type} {length : Nat}
    {next : Unit → Action (Channel σ) Refusal α} {returns : α → Channel σ → Channel σ → Prop}
    {fails : Channel σ → Channel σ → Prop} (failed : fails first second)
    (present : Staging.checkRegion 0 length = .ok () →
      Action.Agrees (next ()) first second returns fails) :
    Action.Agrees (reserve length >>= next) first second returns fails := by
  cases checked : Staging.checkRegion 0 length with
  | error cause =>
    have refused (channel : Channel σ) :
        reserve length channel = (.error (.final cause), channel) := by
      simp only [reserve, checked, Action.mapError, Action.ofOutcome, Outcome.ofExcept,
        Outcome.mapError]
    exact .error (Action.bind_of_error (refused first)) (Action.bind_of_error (refused second))
      failed
  | ok =>
    have passed (channel : Channel σ) : reserve length channel = (.ok (), channel) := by
      simp only [reserve, checked, Action.mapError, Action.ofOutcome, Outcome.ofExcept,
        Outcome.mapError]
    exact (present checked).of_run (Action.bind_of_ok (passed first))
      (Action.bind_of_ok (passed second))

theorem packet_bind_agrees {α : Type} {blocks block : Nat}
    {next : Bytes → Action (Channel σ) Refusal α} {returns : α → Channel σ → Channel σ → Prop}
    {fails : Channel σ → Channel σ → Prop} (same : first.Alike alike segment held second)
    (rest : ∀ raw, Action.Agrees (next raw) first second returns fails) :
    Action.Agrees (packet blocks block >>= next) first second returns fails := by
  refine Action.agrees_look_bind ?_ (rest _)
  simp only [Staging.startPointer, same.here, same.there]

theorem tryTimes_agrees {service : Action (Channel σ) Status Unit} {length : Nat}
    (cause : DiskError) (tries : Nat)
    (served : ∀ first second : Channel σ, first.Alike alike segment 0 second →
      Action.Agrees service first second (fun _ => Channel.Alike alike segment length)
        (Channel.Alike alike segment 0))
    (same : first.Alike alike segment 0 second) :
    Action.Agrees (tryTimes service cause tries) first second
      (fun _ => Channel.Alike alike segment length) (Channel.Alike alike segment 0) := by
  induction tries generalizing first second with
  | zero => exact Action.agrees_refuse same
  | succ tries ih =>
    exact (served first second same).caught_bind (fun _ _ _ done => Action.agrees_pure done)
      (fun _ _ _ refused => ih refused) (fun _ _ failed => failed)

variable [Firmware σ] {number : DriveNumber} {record : Geometry}

theorem attemptSectors_agrees (services : Firmware.Alike number alike)
    (own : record.drive = number) (direction : Direction) (sector length : Nat)
    (inside : direction = .write → length * sectorSize ≤ held)
    (same : first.Alike alike segment (direction.shared held 0) second) :
    Action.Agrees (attemptSectors record direction sector length) first second
      (fun _ => Channel.Alike alike segment (direction.shared held (length * sectorSize)))
      (Channel.Alike alike segment (direction.shared held 0)) := by
  subst own
  apply reserve_bind_agrees same
  intro reserved
  have room := Staging.mul_le_byteSize (Staging.checkRegion_sectors reserved)
  cases record.mode with
  | lba =>
    apply packet_bind_agrees same
    intro raw
    exact .mapError (Channel.lend_agrees (services.block direction raw) room inside same)
  | chs =>
    cases record.address sector with
    | error cause => exact .error rfl rfl same
    | ok address =>
      have lent := Channel.lend_agrees (services.chs direction address (UInt8.ofNat length)) room
        inside same
      exact (Action.Agrees.mapError lent).of_run rfl rfl

theorem attemptOptical_agrees (services : Firmware.Alike number alike) (settings : Settings)
    (sector length : Nat) (same : first.Alike alike segment 0 second) :
    Action.Agrees (attemptOptical settings number sector length) first second
      (fun _ => Channel.Alike alike segment (length * sectorSize))
      (Channel.Alike alike segment 0) := by
  have positive : 0 < settings.opticalSpan := by
    rw [Settings.opticalSpan, Nat.one_shiftLeft]
    exact Nat.two_pow_pos settings.opticalSectorShift
  unfold attemptOptical
  dsimp only
  split
  · exact .fault rfl rfl same
  split
  · exact .fault rfl rfl same
  apply packet_bind_agrees same
  intro raw
  apply reserve_bind_agrees same
  intro reserved
  have room := Staging.mul_le_byteSize (Staging.checkRegion_sectors reserved)
  have read (first second : Channel σ) (same : first.Alike alike segment 0 second) :=
    @Channel.lend_agrees σ alike segment 0 first second .read _ (services.block .read raw) _ room
      nofun same
  refine (tryTimes_agrees _ _ read same).mono ?_ (fun _ _ failed => failed)
  intro _ one two done
  exact done.shorten (Nat.mul_le_mul_right sectorSize (le_blocks positive))

/-- An attempt goes the same way over channels that are alike. -/
theorem attempt_agrees (services : Firmware.Alike number alike) (settings : Settings)
    (own : record.drive = number) {direction : Direction} (sector length : Nat)
    (plain : direction = .write → record.optical = false)
    (inside : direction = .write → length * sectorSize ≤ held)
    (same : first.Alike alike segment (direction.shared held 0) second) :
    Action.Agrees (attempt settings record direction sector length) first second
      (fun _ => Channel.Alike alike segment (direction.shared held (length * sectorSize)))
      (Channel.Alike alike segment (direction.shared held 0)) := by
  unfold attempt
  cases optical : record.optical with
  | false => exact attemptSectors_agrees services own direction sector length inside same
  | true =>
    cases direction with
    | read =>
      rw [own]
      exact attemptOptical_agrees services settings sector length same
    | write => exact absurd (plain rfl) (by rw [optical]; nofun)

/-- One rung of two descents: the tries settle it alike, or the rungs below go on alike. -/
theorem descend_round_agrees {settings : Settings} {direction : Direction} {sector : Nat}
    {rung : Rung} {below : List Rung} {failed : Channel σ → Channel σ → Prop}
    {returns : Nat → Link σ → Link σ → Prop} {fails : Link σ → Link σ → Prop}
    (tried : Action.Agrees (attempt settings record direction sector rung.length) first second
      (fun _ one two => returns rung.length { record := rung.settle record, channel := one }
        { record := rung.settle record, channel := two }) failed)
    (stopped : ∀ one two, failed one two →
      fails { record, channel := one } { record, channel := two })
    (lower : ∀ next rest one two, below = next :: rest → failed one two →
      Action.Agrees (descend settings direction sector next rest)
        (lowered next { record, channel := one }) (lowered next { record, channel := two })
        returns fails) :
    Action.Agrees (descend settings direction sector rung below)
      { record, channel := first } { record, channel := second } returns fails := by
  have step (channel : Channel σ) := @descend_eq σ _ direction sector settings rung below
    { record, channel : Link σ }
  cases tried with
  | @ok _ one two run again done =>
    exact .ok ((step first).trans (by rw [run])) ((step second).trans (by rw [again])) done
  | @fault _ one two run again failed =>
    have stopped := stopped one two failed
    exact .fault ((step first).trans (by rw [run])) ((step second).trans (by rw [again])) stopped
  | @error refusal one two run again failed =>
    have stopped := stopped one two failed
    cases refusal with
    | final cause =>
      exact .error ((step first).trans (by rw [run])) ((step second).trans (by rw [again])) stopped
    | retryable status =>
      cases below with
      | nil =>
        exact .error ((step first).trans (by rw [run])) ((step second).trans (by rw [again]))
          stopped
      | cons next rest =>
        exact (lower next rest one two rfl failed).of_run ((step first).trans (by rw [run]))
          ((step second).trans (by rw [again]))

/-- A descent goes the same way over links that are alike. -/
theorem descend_agrees (services : Firmware.Alike number alike) (settings : Settings)
    (own : record.drive = number) {direction : Direction} (sector : Nat) {rung : Rung}
    {below : List Rung} (plain : direction = .write → record.optical = false)
    (inside : direction = .write → ∀ lower ∈ rung :: below, lower.length * sectorSize ≤ held)
    (same : first.Alike alike segment (direction.shared held 0) second) :
    Action.Agrees (descend settings direction sector rung below)
      { record, channel := first } { record, channel := second }
      (fun moved => Link.Alike alike segment number (direction.shared held (moved * sectorSize)))
      (Link.Alike alike segment number (direction.shared held 0)) := by
  induction below generalizing rung record first second with
  | nil =>
    have tried := attempt_agrees services settings own sector rung.length plain
      (fun writes => inside writes rung List.mem_cons_self) same
    exact descend_round_agrees (tried.mono (fun _ _ _ done => ⟨rfl, own, done⟩)
      (fun _ _ failed => failed)) (fun _ _ failed => ⟨rfl, own, failed⟩) nofun
  | cons next rest ih =>
    have tried := attempt_agrees services settings own sector rung.length plain
      (fun writes => inside writes rung List.mem_cons_self) same
    refine descend_round_agrees (tried.mono (fun _ _ _ done => ⟨rfl, own, done⟩)
      (fun _ _ failed => failed)) (fun _ _ failed => ⟨rfl, own, failed⟩) ?_
    rintro _ _ one two ⟨⟩ failed
    subst own
    have settled : (next.settle record).drive = record.drive := rfl
    have reset : (lowered next { record, channel := one }).channel.Alike alike segment
        (direction.shared held 0) (lowered next { record, channel := two }).channel :=
      ⟨services.reset _ _ failed.firmware, failed.here, failed.there, failed.staged⟩
    exact ih settled plain
      (fun writes lower member => inside writes lower (List.mem_cons_of_mem rung member)) reset

end Transfer

/-- A transfer goes the same way over links that are alike. What it has read is the same in both
staging buffers, and what is held there to be written stays. -/
theorem transfer_agrees [Firmware σ] {alike : σ → σ → Prop} {number : DriveNumber}
    (services : Firmware.Alike number alike) (settings : Settings) {direction : Direction}
    (sector count : Nat) {segment : UInt16} {held : Nat} {first second : Link σ}
    (inside : direction = .write → count * sectorSize ≤ held)
    (same : first.Alike alike segment number (direction.shared held 0) second) :
    Action.Agrees (transfer settings direction sector count) first second
      (fun moved => Link.Alike alike segment number (direction.shared held (moved * sectorSize)))
      (Link.Alike alike segment number (direction.shared held 0)) := by
  obtain ⟨record, first⟩ := first
  obtain ⟨other, second⟩ := second
  obtain ⟨record_eq, own, channel⟩ := same
  dsimp only at record_eq own channel
  subst record_eq
  unfold transfer
  refine Action.agrees_look_bind (by rfl) ?_
  dsimp only
  by_cases nothing : count = 0
  · rw [if_pos nothing]
    refine Action.agrees_pure ?_
    rw [Nat.zero_mul]
    exact ⟨rfl, own, channel⟩
  · rw [if_neg nothing]
    by_cases refused : record.optical = true ∧ direction = .write
    · rw [if_pos refused]
      exact Action.agrees_refuse ⟨rfl, own, channel⟩
    · rw [if_neg refused]
      have top := @Rung.top_length record sector count (Nat.pos_of_ne_zero nothing)
      refine Transfer.descend_agrees services settings own sector ?_ ?_ channel
      · intro writes
        cases optical : record.optical with
        | false => rfl
        | true => exact (refused ⟨optical, writes⟩).elim
      -- No rung asks for more than the caller, whose sectors are staged.
      · intro writes lower member
        have few : lower.length ≤ count := by
          rcases List.mem_cons.mp member with rfl | below
          · exact top.2
          · have short := Rung.below_length top.1 below
            omega
        exact Nat.le_trans (Nat.mul_le_mul_right sectorSize few) (inside writes)

end FirmwareDisk
