import FirmwareDisk.Proofs.Medium.Readable
import FirmwareDisk.Proofs.Raid.Detection
import FirmwareDisk.Proofs.Simulation

set_option autoImplicit false

namespace FirmwareDisk

/-- A read that a device was asked for: where it begins, and the length of the buffer it fills. -/
structure SectorRead where
  sector : Nat
  length : Nat
deriving DecidableEq

/-- Whether a read is one of whole sectors that a device of `size` sectors has. -/
def SectorRead.Inside (size : Nat) (asked : SectorRead) : Prop :=
  asked.length % sectorSize = 0 ∧ asked.sector + asked.length / sectorSize ≤ size

/-- A device with the reads that it was asked for. -/
structure Logged (δ : Type) where
  device : δ
  reads : List SectorRead := []

namespace Logged

variable {δ ε ε' α β : Type}

instance [BlockDevice δ] : BlockDevice (Logged δ) where
  totalSectors logged := BlockDevice.totalSectors logged.device
  read sector := fun lent =>
    let (outcome, after) :=
      BlockDevice.read sector { buffer := lent.buffer, state := lent.state.device }
    (outcome, {
      buffer := after.buffer
      state := {
        device := after.state
        reads := lent.state.reads ++ [{ sector, length := lent.buffer.length }] } })
  write sector bytes := fun logged =>
    let (outcome, device) := BlockDevice.write sector bytes logged.device
    (outcome, { logged with device })

/-- Some bytes are fetched by one read of the sectors around them, or by none. -/
theorem fetch_eq [BlockDevice δ] {length : Nat} (filled : 0 < length) (sector offset : Nat)
    (logged : Logged δ) :
    BlockDevice.fetch sector offset length logged =
      ((BlockDevice.fetch sector offset length logged.device).1, {
        device := (BlockDevice.fetch sector offset length logged.device).2
        reads := logged.reads ++
          if UInt64.size ≤ sector + offset / sectorSize then []
          else [{
            sector := sector + offset / sectorSize
            length := sectorsToHold (offset % sectorSize + length) * sectorSize }] }) := by
  have zeros (count : Nat) : (Bytes.zeros count).length = count := List.length_replicate
  rw [BlockDevice.fetch_eq filled, BlockDevice.fetch_eq filled]
  by_cases far : UInt64.size ≤ sector + offset / sectorSize
  · simp only [far, ↓reduceIte, List.append_nil]
  · simp only [far, ↓reduceIte, BlockDevice.read, zeros]
    rcases BlockDevice.read (sector + offset / sectorSize) _ with ⟨_ | _ | _, _⟩ <;> rfl

theorem simulates_fetch [BlockDevice δ] {length : Nat} (filled : 0 < length)
    (sector offset : Nat) :
    Action.Simulates (device : Logged δ → δ) (BlockDevice.fetch sector offset length)
      (BlockDevice.fetch sector offset length) := by
  intro logged
  rw [fetch_eq filled]

/-- The first reads of a plan, however many, were asked for. -/
def Began (before : Logged δ) (plan : List SectorRead) (after : Logged δ) : Prop :=
  ∃ asked, asked <+: plan ∧ after.reads = before.reads ++ asked

/-- An action that asks for the reads of a plan, in order. It may stop early, but where it succeeds
it has asked for all of them. -/
def Follows (plan : List SectorRead) (action : Action (Logged δ) ε α) : Prop :=
  ∀ logged, Action.Ends action logged (fun _ after => after.reads = logged.reads ++ plan)
    (fun _ after => Began logged plan after) (fun _ after => Began logged plan after)

variable {before middle after : Logged δ} {plan rest : List SectorRead}
  {action : Action (Logged δ) ε α}

theorem Began.sooner (began : Began before plan after) (rest : List SectorRead) :
    Began before (plan ++ rest) after := by
  obtain ⟨asked, few, reads⟩ := began
  exact ⟨asked, few.trans (List.prefix_append plan rest), reads⟩

theorem Began.later (began : Began middle rest after)
    (reads : middle.reads = before.reads ++ plan) : Began before (plan ++ rest) after := by
  obtain ⟨asked, few, more⟩ := began
  refine ⟨plan ++ asked, (List.prefix_append_right_inj plan).mpr few, ?_⟩
  rw [more, reads, List.append_assoc]

theorem began_nothing (logged : Logged δ) (plan : List SectorRead) : Began logged plan logged :=
  ⟨[], List.nil_prefix, (List.append_nil logged.reads).symm⟩

theorem follows_ofOutcome (outcome : Outcome ε α) :
    Follows [] (Action.ofOutcome outcome : Action (Logged δ) ε α) := by
  intro logged
  cases outcome with
  | ok value => exact (List.append_nil logged.reads).symm
  | error cause => exact began_nothing logged []
  | fault reason => exact began_nothing logged []

theorem Follows.mapError (follows : Follows plan action) (reword : ε → ε') :
    Follows plan (Action.mapError reword action) :=
  fun logged => (follows logged).mapError

/-- What follows a whole plan carries on with the next one. -/
theorem Follows.bind {next : α → Action (Logged δ) ε β} (first : Follows plan action)
    (further : ∀ value, Follows rest (next value)) : Follows (plan ++ rest) (action >>= next) := by
  intro logged
  have begun : Action.Ends action logged (fun _ after => after.reads = logged.reads ++ plan)
      (fun _ after => Began logged (plan ++ rest) after)
      (fun _ after => Began logged (plan ++ rest) after) :=
    .intro (fun _ _ run => (first logged).of_ok run)
      (fun _ _ run => ((first logged).of_error run).sooner rest)
      (fun _ _ run => ((first logged).of_fault run).sooner rest)
  refine begun.bind ?_
  intro value middle read
  refine .intro ?_ ?_ ?_
  · intro _ after run
    rw [(further value middle).of_ok run, read, List.append_assoc]
  · exact fun _ _ run => ((further value middle).of_error run).later read
  · exact fun _ _ run => ((further value middle).of_fault run).later read

variable [BlockDevice δ]

/-- Bytes at the start of a sector are fetched by a read of the sectors that hold them. -/
theorem follows_fetch {sector length : Nat} (filled : 0 < length)
    (small : sector < UInt64.size) :
    Follows [{ sector, length := sectorsToHold length * sectorSize }]
      (BlockDevice.fetch sector 0 length : Action (Logged δ) DiskError Bytes) := by
  intro logged
  have near : ¬ UInt64.size ≤ sector := Nat.not_le.mpr small
  have run := fetch_eq filled sector 0 logged
  simp only [Nat.zero_div, Nat.add_zero, near, ↓reduceIte, Nat.zero_mod, Nat.zero_add] at run
  unfold Action.Ends
  rw [run]
  rcases (BlockDevice.fetch sector 0 length logged.device).1 with value | cause | reason
  · rfl
  · exact ⟨_, List.prefix_refl _, rfl⟩
  · exact ⟨_, List.prefix_refl _, rfl⟩

end Logged

namespace BlockDevice

variable {δ : Type} [BlockDevice δ]

/-- A device, in any of the states that it is kept in, whose reads inside `size` sectors succeed. -/
def Serves (kept : δ → Prop) (size : Nat) : Prop :=
  ∀ sector count device, kept device → sector + count ≤ size →
    Action.Ends (read sector) { buffer := Bytes.zeros (count * sectorSize), state := device }
      (fun _ after => kept after.state) (fun _ _ => False) (fun _ _ => False)

theorem Serves.fetch_ends {kept : δ → Prop} {size sector length : Nat} {device : δ}
    (serves : Serves kept size) (start : kept device) (filled : 0 < length)
    (small : sector < UInt64.size) (inside : sector + sectorsToHold length ≤ size) :
    Action.Ends (fetch sector 0 length) device (fun _ after => kept after) (fun _ _ => False)
      (fun _ _ => False) := by
  refine fetch_of_read filled (fun far => absurd small (Nat.not_lt.mpr far)) fun _ => ?_
  rw [Nat.zero_mod, Nat.zero_add]
  exact serves sector _ device start inside

end BlockDevice

namespace Raid

variable {δ : Type} [BlockDevice δ]

-- A read is never computed here, however long its buffer is.
attribute [local irreducible] BlockDevice.fetch

def headerReads (places : List Nat) : List SectorRead :=
  places.map fun sector => { sector, length := 512 }

def reservedRead (size : Nat) : List SectorRead :=
  if size < 128 then [] else [{ sector := size / 128 * 128 - 128, length := 4096 }]

/-- The reads that detection may ask for on a device of `size` sectors, in order. -/
def planned (size : Nat) : List SectorRead :=
  if size = unknownTotal then [] else headerReads (places size) ++ reservedRead size

theorem places_lt {size place : Nat} (listed : place ∈ places size) : place + 1 ≤ size := by
  unfold places at listed
  split at listed
  · simp only [List.mem_cons, List.not_mem_nil, or_false] at listed
    omega
  · exact (List.not_mem_nil listed).elim

theorem searchV1_planned (listed : List Nat) (small : ∀ place ∈ listed, place < UInt64.size)
    (best : Option Superblock1) :
    Logged.Follows (headerReads listed)
      (searchV1 listed best : Action (Logged δ) RaidError (Option Superblock1)) := by
  induction listed generalizing best with
  | nil => exact Logged.follows_ofOutcome (.ok best)
  | cons place rest ih =>
    rw [searchV1_cons]
    have header : Logged.Follows [{ sector := place, length := 512 }]
        (BlockDevice.fetch place 0 256 : Action (Logged δ) DiskError Bytes) :=
      Logged.follows_fetch (by decide) (small place List.mem_cons_self)
    exact (header.mapError .disk).bind fun raw =>
      ih (fun later listed => small later (List.mem_cons_of_mem place listed)) _

theorem readV090_planned {size : Nat} (small : size < UInt64.size) :
    Logged.Follows (reservedRead size)
      (readV090 size : Action (Logged δ) RaidError ArrayMember) := by
  rw [readV090, reservedStart?_eq, reservedRead]
  split
  · exact Logged.follows_ofOutcome (.error RaidError.notRaid)
  · have block : Logged.Follows [{ sector := size / 128 * 128 - 128, length := 4096 }]
        (BlockDevice.fetch (size / 128 * 128 - 128) 0 4096 :
          Action (Logged δ) DiskError Bytes) :=
      Logged.follows_fetch (by decide) (by omega)
    exact (block.mapError .disk).bind fun raw =>
      Logged.follows_ofOutcome (.ofExcept (interpretV090 raw _))

theorem planned_eq_nil {size : Nat} (hopeless : size = unknownTotal ∨ size < 24) :
    planned size = [] := by
  rcases hopeless with unknown | few
  · rw [planned, if_pos unknown]
  · have nowhere : places size = [] := if_neg (Nat.not_le.mpr few)
    have untouched : reservedRead size = [] := if_pos (by omega)
    rw [planned, nowhere, untouched]
    exact ite_self []

/-- Every read that is planned lies inside the device. -/
theorem planned_inside {size : Nat} {asked : SectorRead} (listed : asked ∈ planned size) :
    asked.Inside size := by
  unfold planned at listed
  split at listed
  · exact (List.not_mem_nil listed).elim
  · rcases List.mem_append.mp listed with header | block
    · obtain ⟨place, found, rfl⟩ := List.mem_map.mp header
      have inside := places_lt found
      simp only [SectorRead.Inside, sectorSize, Nat.mod_self, true_and]
      omega
    · unfold reservedRead at block
      split at block
      · exact (List.not_mem_nil block).elim
      · rw [List.mem_singleton.mp block]
        simp only [SectorRead.Inside, sectorSize, true_and]
        omega

/-- The places of the planned reads, as integers: no difference is cut off at zero. -/
theorem planned_places (size : Nat) :
    (planned size).map (fun asked => ((asked.sector : Int), asked.length)) <+:
      [(((size : Int) - 16) / 8 * 8, 512), (0, 512), (8, 512),
        ((size : Int) / 128 * 128 - 128, 4096)] := by
  by_cases hopeless : size = unknownTotal ∨ size < 24
  · rw [planned_eq_nil hopeless]
    exact List.nil_prefix
  · have known : size ≠ unknownTotal := fun unknown => hopeless (Or.inl unknown)
    have large : 24 ≤ size := Nat.not_lt.mp fun few => hopeless (Or.inr few)
    have last : (((size - 16) / 8 * 8 : Nat) : Int) = ((size : Int) - 16) / 8 * 8 := by omega
    rw [planned, if_neg known, places, if_pos large, ← last]
    by_cases tiny : size < 128
    · rw [reservedRead, if_pos tiny]
      exact ⟨[_], rfl⟩
    · have block : ((size / 128 * 128 - 128 : Nat) : Int) = (size : Int) / 128 * 128 - 128 := by
        omega
      rw [reservedRead, if_neg tiny, ← block]
      exact List.prefix_refl _

/-- Detection asks for the first of the planned reads, as many as it needs. -/
theorem detect_began {logged : Logged δ} (small : BlockDevice.totalSectors logged < UInt64.size) :
    Logged.Began logged (planned (BlockDevice.totalSectors logged)) (detect logged).2 := by
  by_cases known : BlockDevice.totalSectors logged = unknownTotal
  · rw [detect, Action.look_bind, if_pos known]
    exact Logged.began_nothing logged _
  rw [detect_eq known, planned, if_neg known, Action.bind_apply]
  have search := searchV1_planned (δ := δ) (places (BlockDevice.totalSectors logged))
    (fun place listed => Nat.lt_of_lt_of_le (places_lt listed) (Nat.le_of_lt small)) none logged
  obtain ⟨best, middle, run, read⟩ | ⟨_, _, run, began⟩ | ⟨_, _, run, began⟩ := search.cases
  · rw [run]
    have reserved : Logged.Began middle (reservedRead (BlockDevice.totalSectors logged))
        (concluded (BlockDevice.totalSectors logged) best middle).2 := by
      cases best with
      | some superblock => exact Logged.began_nothing middle _
      | none =>
        refine Action.Ends.left ((readV090_planned small middle).mono ?_ fun _ _ began => began)
        exact fun _ after reads => ⟨_, List.prefix_refl _, reads⟩
    exact reserved.later read
  · rw [run]
    exact began.sooner _
  · rw [run]
    exact began.sooner _

theorem simulates_searchV1 (listed : List Nat) (best : Option Superblock1) :
    Action.Simulates (Logged.device : Logged δ → δ) (searchV1 listed best)
      (searchV1 listed best) := by
  induction listed generalizing best with
  | nil => exact Action.simulates_pure _ _
  | cons place rest ih =>
    rw [searchV1_cons, searchV1_cons]
    exact ((Logged.simulates_fetch (by decide) place 0).mapError _).bind fun _ => ih _

theorem simulates_readV090 (size : Nat) :
    Action.Simulates (Logged.device : Logged δ → δ) (readV090 size) (readV090 size) := by
  unfold readV090
  cases reservedStart? size with
  | none => exact Action.simulates_refuse _ _
  | some sector =>
    exact ((Logged.simulates_fetch (by decide) sector 0).mapError _).bind fun _ =>
      Action.simulates_ofOutcome _ _

theorem simulates_detect :
    Action.Simulates (Logged.device : Logged δ → δ) detect detect := by
  refine Action.simulates_look_bind (fun _ => rfl) fun size => ?_
  split
  · exact Action.simulates_refuse _ _
  · refine (simulates_searchV1 _ none).bind fun best => ?_
    cases best with
    | some superblock => exact Action.simulates_pure _ _
    | none => exact simulates_readV090 size

/-- The search for a superblock succeeds where all places are served. -/
theorem searchV1_served {kept : δ → Prop} {size : Nat} (serves : BlockDevice.Serves kept size)
    (small : size < UInt64.size) (listed : List Nat) (inside : ∀ place ∈ listed, place + 1 ≤ size)
    (best : Option Superblock1) {device : δ} (start : kept device) :
    Action.Ends (searchV1 listed best) device (fun _ after => kept after) (fun _ _ => False)
      (fun _ _ => False) := by
  induction listed generalizing best device with
  | nil => exact start
  | cons place rest ih =>
    rw [searchV1_cons]
    have present := inside place List.mem_cons_self
    have header : Action.Ends (BlockDevice.fetch place 0 256) device (fun _ after => kept after)
        (fun _ _ => False) (fun _ _ => False) :=
      serves.fetch_ends start (by decide) (by omega) present
    refine header.mapError.bind fun raw middle held => ?_
    exact ih (fun later listed => inside later (List.mem_cons_of_mem place listed)) _ held

/-- The words of the reserved block never blame the device. -/
theorem interpretV090_ne_disk (raw : Bytes) (sector : Nat) (cause : DiskError) :
    interpretV090 raw sector ≠ .error (.disk cause) := by
  unfold interpretV090
  cases Superblock090.ofBytes? raw with
  | none => nofun
  | some superblock =>
    dsimp only
    split
    · nofun
    · split
      · nofun
      · split <;> nofun

theorem readV090_served {kept : δ → Prop} {size : Nat} (serves : BlockDevice.Serves kept size)
    (small : size < UInt64.size) {device : δ} (start : kept device) :
    Action.Ends (readV090 size) device (fun _ _ => True)
      (fun cause _ => ∀ error, cause ≠ .disk error) (fun _ _ => False) := by
  by_cases tiny : size < 128
  · rw [readV090, reservedStart?_eq, if_pos tiny]
    intro error same
    cases same
  · rw [readV090, reservedStart?_eq, if_neg tiny]
    have whole : sectorsToHold 4096 = 8 := by decide
    have block : Action.Ends (BlockDevice.fetch (size / 128 * 128 - 128) 0 4096) device
        (fun _ after => kept after) (fun _ _ => False) (fun _ _ => False) :=
      serves.fetch_ends start (by decide) (by omega) (by omega)
    have read : Action.Ends (fetch (size / 128 * 128 - 128) 4096) device
        (fun _ after => kept after) (fun _ _ => False) (fun _ _ => False) := block.mapError
    refine read.unrefused.bind fun raw middle _ => ?_
    have unblamed := interpretV090_ne_disk raw (size / 128 * 128 - 128)
    unfold Action.Ends
    cases said : interpretV090 raw (size / 128 * 128 - 128) with
    | ok member => trivial
    | error cause =>
      intro error same
      exact unblamed error (by rw [said, same])

/-- Detection never blames a device that serves every read inside its bounds. -/
theorem detect_served {kept : δ → Prop} {device : δ}
    (serves : BlockDevice.Serves kept (BlockDevice.totalSectors device))
    (small : BlockDevice.totalSectors device < UInt64.size) (start : kept device) :
    Action.Ends detect device (fun _ _ => True) (fun cause _ => ∀ error, cause ≠ .disk error)
      (fun _ _ => False) := by
  by_cases known : BlockDevice.totalSectors device = unknownTotal
  · rw [detect, Action.ends_look_bind, if_pos known]
    intro error same
    cases same
  · refine .of_run (detect_eq known) ?_
    refine (searchV1_served serves small _ (fun _ => places_lt) none start).unrefused.bind ?_
    intro best middle held
    cases best with
    | some superblock => trivial
    | none => exact readV090_served serves small held

/-- What detection asks of a device whose size is a 64-bit number. Keeping a log of it changes
nothing. Every read lies inside the device, and the reads are the first of four, whose places are
given as integers here: no difference is cut off at zero. A device that serves every read inside its
bounds is never blamed. -/
theorem detect_stays_inside {device : δ} (small : BlockDevice.totalSectors device < UInt64.size) :
    let size := BlockDevice.totalSectors device
    let run := detect ({ device } : Logged δ)
    detect device = (run.1, run.2.device) ∧
    (∀ asked ∈ run.2.reads, asked.Inside size) ∧
    run.2.reads.map (fun asked => ((asked.sector : Int), asked.length)) <+:
      [(((size : Int) - 16) / 8 * 8, 512), (0, 512), (8, 512),
        ((size : Int) / 128 * 128 - 128, 4096)] ∧
    run.2.reads.length ≤ 4 ∧
    (size = unknownTotal ∨ size < 24 → run.2.reads = []) ∧
    ∀ kept : δ → Prop, BlockDevice.Serves kept size → kept device →
      (∀ error, run.1 ≠ .error (.disk error)) ∧ ∀ reason, run.1 ≠ .fault reason := by
  intro size run
  have same := simulates_detect ({ device } : Logged δ)
  have began : Logged.Began { device } (planned size) run.2 := detect_began small
  obtain ⟨asked, few, reads⟩ := began
  rw [List.nil_append] at reads
  -- Detection follows its plan as far as it goes, and the plan has the four places.
  have first := (few.map fun asked => ((asked.sector : Int), asked.length)).trans
    (planned_places size)
  rw [← reads] at first
  refine ⟨same, ?_, first, ?_, ?_, ?_⟩
  · intro read listed
    rw [reads] at listed
    exact planned_inside (few.subset listed)
  · have length := first.length_le
    rwa [List.length_map] at length
  · intro hopeless
    rw [planned_eq_nil hopeless] at few
    rw [reads, List.prefix_nil.mp few]
  · intro kept serves start
    have served := detect_served serves small start
    obtain ⟨member, _, found, -⟩ | ⟨cause, _, refused, unblamed⟩ | ⟨_, _, _, never⟩ := served.cases
    · rw [same, Prod.mk.injEq] at found
      rw [found.1]
      exact ⟨nofun, nofun⟩
    · rw [same, Prod.mk.injEq] at refused
      rw [refused.1]
      refine ⟨?_, nofun⟩
      intro error blamed
      exact unblamed error (Outcome.error.inj blamed)
    · exact never.elim

/-- The image with two copies serves all of its sectors. -/
theorem twoCopies_serves : BlockDevice.Serves (· = twoCopies) 32 := by
  rintro sector count _ rfl inside
  have limit : UInt64.size = 0x10000000000000000 := rfl
  have readable : twoCopies.Readable sector count := {
    below := by omega
    fits := inside
    spotless := fun bad listed => (List.not_mem_nil listed).elim
    near := fun _ _ => by
      simp only [sectorSize]
      omega
    calm := fun file stored => by
      cases stored
      exact ImageFile.calm_of_faultless rfl _ _ }
  have whole : (Bytes.zeros (count * sectorSize)).length = count * sectorSize :=
    List.length_replicate
  unfold Action.Ends
  rw [readable.read whole]

/-- The image with two copies is asked for its three headers, and for no more. -/
theorem detect_stays_inside_twoCopies :
    (detect ({ device := twoCopies } : Logged Medium)).2.reads =
        [{ sector := 16, length := 512 }, { sector := 0, length := 512 },
          { sector := 8, length := 512 }] ∧
      (∀ asked ∈ (detect ({ device := twoCopies } : Logged Medium)).2.reads, asked.Inside 32) ∧
      ∀ error, (detect ({ device := twoCopies } : Logged Medium)).1 ≠ .error (.disk error) := by
  obtain ⟨-, inside, -, -, -, served⟩ :=
    detect_stays_inside (show BlockDevice.totalSectors twoCopies < UInt64.size by decide)
  exact ⟨by decide +kernel, inside, (served (· = twoCopies) twoCopies_serves rfl).1⟩

end Raid

end FirmwareDisk
