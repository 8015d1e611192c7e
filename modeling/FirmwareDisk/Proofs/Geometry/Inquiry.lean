import FirmwareDisk.Proofs.Geometry.Refinement
import FirmwareDisk.Proofs.Session.Simulation

set_option autoImplicit false

namespace FirmwareDisk

variable {σ ε ε' α β : Type}

def Channel.watched (channel : Channel σ) : Channel (Watched σ) :=
  channel.map fun firmware => { firmware }

def Channel.transcript (channel : Channel (Watched σ)) : List Exchange :=
  channel.firmware.transcript

namespace Channel

/-- Between two states of a watched channel, requests of a plan were made in the order of the plan.
-/
def Asked (plan : List Request) (before after : Channel (Watched σ)) : Prop :=
  ∃ asked, after.transcript = before.transcript ++ asked ∧
    (asked.map Exchange.request).Sublist plan

/-- An action whose requests are among those of a plan, in its order. It faults only where the
firmware did. -/
def Asks (plan : List Request) (action : Action (Channel (Watched σ)) ε α) : Prop :=
  ∀ channel, Action.Ends action channel (fun _ after => Asked plan channel after)
    (fun _ after => Asked plan channel after)
    (fun reason after => Asked plan channel after ∧
      ∃ exchange ∈ after.transcript, exchange.answer = .fault reason)

variable {plan rest : List Request} {before middle after : Channel (Watched σ)}
  {action : Action (Channel (Watched σ)) ε α}

theorem Asked.trans (first : Asked plan before middle) (second : Asked rest middle after) :
    Asked (plan ++ rest) before after := by
  obtain ⟨asked, transcript, few⟩ := first
  obtain ⟨more, longer, others⟩ := second
  refine ⟨asked ++ more, ?_, ?_⟩
  · rw [longer, transcript, List.append_assoc]
  · rw [List.map_append]
    exact few.append others

theorem asked_nothing (plan : List Request) (channel : Channel (Watched σ)) :
    Asked plan channel channel :=
  ⟨[], (List.append_nil _).symm, List.nil_sublist plan⟩

theorem Asked.widen (asked : Asked plan before after) (wider : plan.Sublist rest) :
    Asked rest before after := by
  obtain ⟨exchanges, transcript, few⟩ := asked
  exact ⟨exchanges, transcript, few.trans wider⟩

theorem asks_pure (plan : List Request) (value : α) :
    Asks plan (pure value : Action (Channel (Watched σ)) ε α) :=
  fun channel => asked_nothing plan channel

theorem asks_refuse (plan : List Request) (cause : ε) :
    Asks plan (Action.refuse cause : Action (Channel (Watched σ)) ε α) :=
  fun channel => asked_nothing plan channel

theorem Asks.widen (asks : Asks plan action) (wider : plan.Sublist rest) : Asks rest action :=
  fun channel => .intro (fun _ _ run => ((asks channel).of_ok run).widen wider)
    (fun _ _ run => ((asks channel).of_error run).widen wider)
    (fun _ _ run => ⟨((asks channel).of_fault run).1.widen wider, ((asks channel).of_fault run).2⟩)

/-- One action after the other makes the requests of both plans. -/
theorem Asks.bind {next : α → Action (Channel (Watched σ)) ε β} (first : Asks plan action)
    (rest : List Request) (further : ∀ value, Asks rest (next value)) :
    Asks (plan ++ rest) (action >>= next) := by
  intro channel
  have short := List.sublist_append_left plan rest
  have begun : Action.Ends action channel (fun _ middle => Asked plan channel middle)
      (fun _ after => Asked (plan ++ rest) channel after)
      (fun reason after => Asked (plan ++ rest) channel after ∧
        ∃ exchange ∈ after.transcript, exchange.answer = .fault reason) :=
    .intro (fun _ _ run => (first channel).of_ok run)
      (fun _ _ run => ((first channel).of_error run).widen short)
      (fun _ _ run =>
        ⟨((first channel).of_fault run).1.widen short, ((first channel).of_fault run).2⟩)
  refine begun.bind ?_
  intro value middle asked
  exact .intro (fun _ _ run => asked.trans ((further value middle).of_ok run))
    (fun _ _ run => asked.trans ((further value middle).of_error run))
    (fun _ _ run => ⟨asked.trans ((further value middle).of_fault run).1,
      ((further value middle).of_fault run).2⟩)

theorem Asks.asked (asks : Asks plan action) (channel : Channel (Watched σ)) :
    Asked plan channel (action channel).2 :=
  Action.Ends.left (.intro (fun _ _ run => (asks channel).of_ok run)
    (fun _ _ run => (asks channel).of_error run) (fun _ _ run => ((asks channel).of_fault run).1))

theorem Asks.caught (asks : Asks plan action) :
    Asks plan (Action.caught action : Action (Channel (Watched σ)) ε' _) :=
  fun channel => .caught (asks channel)

/-- A service of a watched firmware is written down, whatever it answers. -/
theorem asks_lend (length : Nat) (request : Request)
    (service : Action (Lent σ) Status Unit) :
    Asks [request] (Channel.lend length (Watched.served request service)) := by
  intro channel
  apply Channel.lend_ends
  unfold Action.Ends Watched.served
  rcases service { buffer := (channel.lent length).buffer, state := channel.firmware.firmware }
    with ⟨_ | status | reason, given⟩
  · exact ⟨_, rfl, List.Sublist.refl _⟩
  · exact ⟨_, rfl, List.Sublist.refl _⟩
  · exact ⟨⟨_, rfl, List.Sublist.refl _⟩, _, List.mem_concat_self, rfl⟩

end Channel

namespace Geometry

open Channel

variable [Firmware σ] (drive : DriveNumber)

theorem asks_readSector? (address : Chs) :
    Asks [.chs .read drive address 1] (readSector? drive address :
      Action (Channel (Watched σ)) ε _) := by
  have served : Asks [.chs .read drive address 1]
      (Channel.lend sectorSize (Firmware.chsTransfer .read drive address 1) :
        Action (Channel (Watched σ)) Status Unit) := asks_lend _ _ _
  refine served.caught.bind [] ?_
  intro answer
  cases answer with
  | ok => exact fun channel => asked_nothing [] channel
  | error => exact asks_pure [] none

theorem asks_extendedParameters? :
    Asks [.extensionsVersion drive, .extendedParameters drive]
      (extendedParameters? drive : Action (Channel (Watched σ)) ε _) := by
  intro channel
  unfold Action.Ends extendedParameters?
  simp only [Firmware.extensionsVersion, Firmware.extendedParameters, Watched.asked, Watched.served]
  rcases Firmware.extensionsVersion drive channel.firmware.firmware with ⟨_ | level, firmware⟩
  · exact ⟨_, rfl, (List.nil_sublist _).cons_cons _⟩
  · dsimp only
    have both (answer : Outcome Status Unit) (lent : Nat) :
        ((channel.firmware.transcript ++ [{ request := .extensionsVersion drive }]) ++
          [{ request := .extendedParameters drive, lent, answer }] : List Exchange) =
        channel.transcript ++ [{ request := .extensionsVersion drive },
          { request := .extendedParameters drive, lent, answer }] := List.append_assoc _ _ _
    rcases Firmware.extendedParameters drive _ with ⟨_ | status | reason, given⟩
    · exact ⟨_, both _ _, List.Sublist.refl _⟩
    · exact ⟨_, both _ _, List.Sublist.refl _⟩
    · exact ⟨⟨_, both _ _, List.Sublist.refl _⟩, _, List.mem_concat_self, rfl⟩

theorem asks_fixedBaseline :
    Asks [.extensionsVersion drive, .extendedParameters drive, .legacyParameters drive]
      (fixedBaseline drive : Action (Channel (Watched σ)) ε _) := by
  have legacy : Asks [.legacyParameters drive]
      (Channel.ask (Firmware.legacyParameters drive) :
        Action (Channel (Watched σ)) Status _) := by
    intro channel
    rw [Channel.ask, Action.ends_onPart]
    unfold Action.Ends
    simp only [Firmware.legacyParameters]
    rcases Firmware.legacyParameters drive channel.firmware.firmware with
      ⟨shape | status | reason, firmware⟩
    · exact ⟨_, rfl, List.Sublist.refl _⟩
    · exact ⟨_, rfl, List.Sublist.refl _⟩
    · exact ⟨⟨_, rfl, List.Sublist.refl _⟩, _, List.mem_concat_self, rfl⟩
  refine (asks_extendedParameters? drive).bind [.legacyParameters drive] ?_
  intro parameters
  refine legacy.caught.bind [] ?_
  intro answer
  cases answer <;> exact asks_pure [] _

theorem asks_trackShape? (base : Nat) :
    Asks [.chs .read drive secondHead 1, .chs .read drive secondCylinder 1]
      (trackShape? drive base : Action (Channel (Watched σ)) ε _) := by
  refine (asks_readSector? drive secondHead).bind [.chs .read drive secondCylinder 1] ?_
  intro head
  cases head with
  | none => exact asks_pure _ none
  | some head =>
    dsimp only
    cases sectorsShown? base head with
    | none => exact asks_pure _ none
    | some sectors =>
      refine (asks_readSector? drive secondCylinder).bind [] ?_
      intro cylinder
      cases cylinder with
      | none => exact asks_pure _ none
      | some cylinder =>
        dsimp only
        cases headsShown? base sectors cylinder <;> exact asks_pure _ _

theorem asks_followOverride (baseline : Baseline) (fbOverride : FbOverride) :
    Asks [.chs .read drive secondHead 1, .chs .read drive secondCylinder 1]
      (followOverride drive baseline fbOverride : Action (Channel (Watched σ)) ε _) := by
  unfold followOverride
  dsimp only
  split
  · exact asks_pure _ _
  · refine (asks_trackShape? drive _).bind [] ?_
    intro shape
    cases shape <;> exact asks_pure _ _

/-- Everything that a probe may ask, in the order in which it asks. -/
def questions (drive : DriveNumber) : List Request :=
  [.chs .read drive firstSector 1, .extensionsVersion drive, .extendedParameters drive,
    .legacyParameters drive, .chs .read drive secondHead 1, .chs .read drive secondCylinder 1]

/-- A probe only reads, and only the first sectors of the drive, of its second head and of its second
cylinder. -/
theorem asks_probe (opticalDrive : Option DriveNumber) :
    Asks (questions drive) (probe drive opticalDrive : Action (Channel (Watched σ)) _ _) := by
  unfold probe
  split
  · exact asks_pure _ _
  · refine (asks_readSector? drive firstSector).bind (questions drive).tail ?_
    intro bootSector
    cases bootSector with
    | none => exact asks_refuse _ _
    | some bootSector =>
      dsimp only
      cases FbOverride.ofSector? bootSector with
      | none =>
        split
        · exact (asks_fixedBaseline drive).bind _ fun _ => asks_pure _ _
        · exact asks_pure _ _
      | some fbOverride =>
        split
        · exact (asks_fixedBaseline drive).bind _ fun baseline =>
            asks_followOverride drive baseline fbOverride
        · exact (asks_followOverride drive _ fbOverride).widen
            (List.drop_sublist 3 (questions drive).tail)

end Geometry

end FirmwareDisk
