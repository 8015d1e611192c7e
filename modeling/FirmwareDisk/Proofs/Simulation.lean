import FirmwareDisk.Transfer.Ladder
import FirmwareDisk.Proofs.Action

set_option autoImplicit false

namespace FirmwareDisk

/-- What `outer` does on the view of a state is what `inner` does on the state. -/
def Action.Simulates {σ τ ε α : Type} (view : τ → σ) (inner : Action τ ε α)
    (outer : Action σ ε α) : Prop :=
  ∀ state, outer (view state) = ((inner state).1, view (inner state).2)

namespace Action

variable {σ τ ε ε' α β : Type} {view : τ → σ} {inner : Action τ ε α} {outer : Action σ ε α}

theorem simulates_pure (view : τ → σ) (value : α) :
    Simulates view (pure value : Action τ ε α) (pure value) :=
  fun _ => rfl

theorem simulates_refuse (view : τ → σ) (cause : ε) :
    Simulates view (refuse cause : Action τ ε α) (refuse cause) :=
  fun _ => rfl

theorem simulates_ofOutcome (view : τ → σ) (outcome : Outcome ε α) :
    Simulates view (ofOutcome outcome) (ofOutcome outcome) :=
  fun _ => rfl

theorem Simulates.bind {next : α → Action τ ε β} {next' : α → Action σ ε β}
    (first : Simulates view inner outer) (rest : ∀ value, Simulates view (next value) (next' value)) :
    Simulates view (inner >>= next) (outer >>= next') := by
  intro state
  rw [bind_apply, bind_apply, first state]
  rcases inner state with ⟨value | cause | reason, after⟩
  · exact rest value after
  · rfl
  · rfl

theorem simulates_look_bind {look : τ → β} {look' : σ → β} {next : β → Action τ ε α}
    {next' : β → Action σ ε α} (same : ∀ state, look' (view state) = look state)
    (rest : ∀ value, Simulates view (next value) (next' value)) :
    Simulates view (Action.look look >>= next) (Action.look look' >>= next') := by
  intro state
  rw [bind_apply, bind_apply, Action.look, Action.look, same state]
  exact rest (look state) state

theorem Simulates.mapError (simulates : Simulates view inner outer) (reword : ε → ε') :
    Simulates view (mapError reword inner) (mapError reword outer) := by
  intro state
  rw [Action.mapError, Action.mapError, simulates state]

theorem Simulates.caught (simulates : Simulates view inner outer) :
    Simulates view (caught inner : Action τ ε' _) (caught outer) := by
  intro state
  rw [Action.caught, Action.caught, simulates state]
  rcases inner state with ⟨value | cause | reason, after⟩
  · rfl
  · rfl
  · rfl

theorem simulates_change {inner : τ → τ} {outer : σ → σ}
    (same : ∀ state, outer (view state) = view (inner state)) :
    Simulates view (change inner : Action τ ε Unit) (change outer) := by
  intro state
  simp only [change, same]

/-- A promise about what is seen through a view can be told of the state behind it. -/
theorem Simulates.ends {returns : α → σ → Prop} {refuses : ε → σ → Prop}
    {faults : Fault → σ → Prop} (simulates : Simulates view inner outer) {state : τ}
    (ends : Ends outer (view state) returns refuses faults) :
    Ends inner state (fun value after => returns value (view after))
      (fun cause after => refuses cause (view after))
      (fun reason after => faults reason (view after)) := by
  have same := simulates state
  unfold Ends at ends ⊢
  rw [same] at ends
  exact ends

end Action

def Lent.map {σ τ : Type} (view : τ → σ) (lent : Lent τ) : Lent σ where
  buffer := lent.buffer
  state := view lent.state

def Channel.map {σ τ : Type} (view : τ → σ) (channel : Channel τ) : Channel σ where
  firmware := view channel.firmware
  staging := channel.staging

def Link.map {σ τ : Type} (view : τ → σ) (link : Link τ) : Link σ where
  record := link.record
  channel := link.channel.map view

/-- A firmware that serves transfers, probes and resets as another one does, seen through a view.
-/
structure Firmware.Simulation {σ τ : Type} [Firmware σ] [Firmware τ] (view : τ → σ) : Prop where
  chsTransfer (direction : Direction) (drive : DriveNumber) (address : Chs) (count : UInt8) :
    Action.Simulates (Lent.map view) (Firmware.chsTransfer direction drive address count)
      (Firmware.chsTransfer direction drive address count)
  blockTransfer (direction : Direction) (drive : DriveNumber) (packet : Bytes) :
    Action.Simulates (Lent.map view) (Firmware.blockTransfer direction drive packet)
      (Firmware.blockTransfer direction drive packet)
  extensionsVersion (drive : DriveNumber) (firmware : τ) :
    Firmware.extensionsVersion drive (view firmware) =
      ((Firmware.extensionsVersion drive firmware).1,
        view (Firmware.extensionsVersion drive firmware).2)
  extendedParameters (drive : DriveNumber) :
    Action.Simulates (Lent.map view) (Firmware.extendedParameters drive)
      (Firmware.extendedParameters drive)
  legacyParameters (drive : DriveNumber) :
    Action.Simulates view (Firmware.legacyParameters drive) (Firmware.legacyParameters drive)
  reset (drive : DriveNumber) (firmware : τ) :
    Firmware.reset drive (view firmware) = view (Firmware.reset drive firmware)

variable {σ τ ε α : Type} {view : τ → σ}

theorem Channel.simulates_lend {inner : Action (Lent τ) ε α} {outer : Action (Lent σ) ε α}
    (simulates : Action.Simulates (Lent.map view) inner outer) (length : Nat) :
    Action.Simulates (Channel.map view) (lend length inner) (lend length outer) := by
  intro channel
  have served := simulates
    { buffer := channel.staging.data.take length, state := channel.firmware }
  simp only [Lent.map] at served
  simp only [lend, Channel.map, served]

namespace Transfer

theorem simulates_packet (view : τ → σ) (blocks block : Nat)
    {next : Bytes → Action (Channel τ) Refusal α}
    {next' : Bytes → Action (Channel σ) Refusal α}
    (rest : ∀ raw, Action.Simulates (Channel.map view) (next raw) (next' raw)) :
    Action.Simulates (Channel.map view) (packet blocks block >>= next)
      (packet blocks block >>= next') :=
  Action.simulates_look_bind (fun _ => rfl) rest

theorem simulates_tryTimes {inner : Action (Channel τ) Status Unit}
    {outer : Action (Channel σ) Status Unit}
    (simulates : Action.Simulates (Channel.map view) inner outer) (cause : DiskError) (tries : Nat) :
    Action.Simulates (Channel.map view) (tryTimes inner cause tries)
      (tryTimes outer cause tries) := by
  induction tries with
  | zero => exact Action.simulates_refuse _ _
  | succ tries ih =>
    refine simulates.caught.bind ?_
    intro answer
    cases answer with
    | ok => exact Action.simulates_pure _ _
    | error => exact ih

theorem simulates_reserve (view : τ → σ) (length : Nat) :
    Action.Simulates (Channel.map view) (reserve length) (reserve length) :=
  (Action.simulates_ofOutcome _ _).mapError _

variable [Firmware σ] [Firmware τ]

theorem simulates_attempt (simulation : Firmware.Simulation view) (settings : Settings)
    (record : Geometry) (direction : Direction) (sector length : Nat) :
    Action.Simulates (Channel.map view) (attempt settings record direction sector length)
      (attempt settings record direction sector length) := by
  unfold attempt
  split
  · unfold attemptOptical
    split
    · exact Action.simulates_ofOutcome _ _
    · dsimp only
      split
      · exact Action.simulates_ofOutcome _ _
      · apply simulates_packet
        intro raw
        refine (simulates_reserve view _).bind ?_
        intro _
        exact simulates_tryTimes (Channel.simulates_lend (simulation.blockTransfer _ _ _) _) _ _
  · unfold attemptSectors
    refine (simulates_reserve view _).bind ?_
    intro _
    cases record.mode with
    | lba =>
      apply simulates_packet
      intro raw
      exact (Channel.simulates_lend (simulation.blockTransfer _ _ _) _).mapError _
    | chs =>
      refine ((Action.simulates_ofOutcome _ _).mapError _).bind ?_
      intro address
      exact (Channel.simulates_lend (simulation.chsTransfer _ _ _ _) _).mapError _

theorem simulates_tryRung (simulation : Firmware.Simulation view) (settings : Settings)
    (direction : Direction) (sector : Nat) (rung : Rung) :
    Action.Simulates (Link.map view) (tryRung settings direction sector rung)
      (tryRung settings direction sector rung) := by
  intro link
  have attempted := simulates_attempt simulation settings link.record direction sector rung.length
    link.channel
  simp only [tryRung, Link.map, attempted]
  rcases attempt settings link.record direction sector rung.length link.channel with
    ⟨value | ⟨status | cause⟩ | reason, after⟩
  · rfl
  · rfl
  · rfl
  · rfl

theorem simulates_descend (simulation : Firmware.Simulation view) (settings : Settings)
    (direction : Direction) (sector : Nat) (rung : Rung) (below : List Rung) :
    Action.Simulates (Link.map view) (descend settings direction sector rung below)
      (descend settings direction sector rung below) := by
  induction below generalizing rung with
  | nil =>
    refine (simulates_tryRung simulation settings direction sector rung).bind ?_
    intro held
    cases held with
    | true => exact Action.simulates_pure _ _
    | false => exact Action.simulates_look_bind (fun _ => rfl) fun _ => Action.simulates_refuse _ _
  | cons next rest ih =>
    refine (simulates_tryRung simulation settings direction sector rung).bind ?_
    intro held
    cases held with
    | true => exact Action.simulates_pure _ _
    | false =>
      have steps : Action.Simulates (Link.map view) (stepDown next) (stepDown next) := by
        intro link
        simp only [stepDown, Action.change, Link.map, Channel.map, simulation.reset]
      exact steps.bind fun _ => ih next

end Transfer

/-- A whole transfer goes the same way on both firmwares. -/
theorem simulates_transfer [Firmware σ] [Firmware τ] (simulation : Firmware.Simulation view)
    (settings : Settings) (direction : Direction) (sector count : Nat) :
    Action.Simulates (Link.map view) (transfer settings direction sector count)
      (transfer settings direction sector count) := by
  apply Action.simulates_look_bind (fun _ => rfl)
  intro record
  split
  · exact Action.simulates_pure _ _
  · split
    · exact Action.simulates_refuse _ _
    · exact Transfer.simulates_descend simulation settings direction sector _ _

end FirmwareDisk
