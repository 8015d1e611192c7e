import FirmwareDisk.Proofs.Transfer.Acceptance

set_option autoImplicit false

namespace FirmwareDisk

namespace Drive

variable {drive held : Drive} {count : Nat}

/-- A drive that lets every transfer through. -/
structure Calm (drive : Drive) : Prop where
  pending : drive.transientFailures = 0
  ceiling : drive.ceiling = none

theorem Calm.accept (calm : drive.Calm) (count : Nat) :
    Drive.accept count drive = (.ok (), drive) := by
  simp only [Drive.accept, calm.pending, calm.ceiling, Option.any_none, Bool.false_eq_true,
    ↓reduceIte]

theorem Calm.not_declined (calm : drive.Calm) : ¬ drive.Declined count held := by
  rintro ⟨status, refused⟩
  rw [calm.accept] at refused
  cases refused

theorem Calm.rewritten (calm : drive.Calm) (rewritten : drive.Rewritten held) : held.Calm := by
  obtain ⟨medium, rfl, -⟩ := rewritten
  exact ⟨calm.pending, calm.ceiling⟩

/-- A drive that lets every transfer through but the next one. -/
structure Tripped (drive : Drive) : Prop where
  pending : drive.transientFailures = 1
  ceiling : drive.ceiling = none

theorem Tripped.not_accepted (tripped : drive.Tripped) : ¬ drive.Accepted count held := by
  intro accepted
  have granted := accepted.accepted
  simp only [accept, tripped.pending, Prod.mk.injEq] at granted
  cases granted.1

theorem Tripped.calm (tripped : drive.Tripped) (declined : drive.Declined count held) :
    held.Calm := by
  obtain ⟨status, refused⟩ := declined
  simp only [accept, tripped.pending, Prod.mk.injEq] at refused
  rw [← refused.2]
  exact ⟨rfl, tripped.ceiling⟩

end Drive

/-- The rung that a first refusal leads to: another length in the same mode, or the same single sector
by address. -/
theorem Rung.below_first {record : Geometry} {sector count : Nat} {next : Rung} {rest : List Rung}
    (chsCap : record.chsCap ≤ 127)
    (found : (top record sector count).below record = next :: rest) :
    (1 ≤ next.cap ∧ next.cap ≤ 127) ∧
      ((2 ≤ (top record sector count).length ∧ next.mode = record.mode) ∨
        ((top record sector count).length < 2 ∧ record.mode = .lba ∧ next = byAddress record ∧
          rest = [])) := by
  by_cases long : 2 ≤ (top record sector count).length
  · obtain ⟨lower, same, mode, cap, bounds, -⟩ := below_of_long long record
    rw [found] at same
    cases same
    exact ⟨by omega, Or.inl ⟨long, mode⟩⟩
  · rw [below_of_single (by omega)] at found
    split at found
    · rename_i linear
      cases found
      refine ⟨?_, Or.inr ⟨by omega, linear, rfl, rfl⟩⟩
      simp only [byAddress]
      omega
    · cases found

theorem Rung.below_bounds {record : Geometry} {sector count : Nat} {next : Rung} {rest : List Rung}
    (wanted : 0 < count) (found : (top record sector count).below record = next :: rest) :
    1 ≤ next.length ∧ next.length ≤ (top record sector count).length ∧
      (next.mode = .chs → next.length ≤ record.restOfTrack sector) := by
  apply ladder_bounds wanted
  rw [ladder, found]
  exact List.mem_cons_of_mem _ List.mem_cons_self

/-- A drive that has the sectors of a sheltered request has those of the rung that a first refusal
leads to. -/
theorem Rung.below_first_has {record : Geometry} {drive : Drive} {sector count : Nat} {next : Rung}
    {rest : List Rung} (chsCap : record.chsCap ≤ 127) (wanted : 0 < count)
    (found : (top record sector count).below record = next :: rest)
    (has : drive.Has record.mode sector count)
    (shelter : 2 ≤ (top record sector count).length ∨
      record.mode = .lba ∧ sector + count ≤ drive.addressed) :
    drive.Has next.mode sector next.length := by
  have highest := @top_length record sector count wanted
  obtain ⟨-, less, -⟩ := below_bounds wanted found
  have part : next.length ≤ count := Nat.le_trans less highest.2
  obtain ⟨-, ⟨-, same⟩ | ⟨single, -⟩⟩ := below_first chsCap found
  · rw [same]
    exact has.shorten part
  · rcases shelter with long | ⟨-, addressed⟩
    · omega
    · exact ⟨by have fits := has.fits; omega, fun _ => by omega⟩

/-- A request begins with the same attempt if only as much of it is asked for as is ever moved at
once. -/
theorem Rung.top_min {record : Geometry} (cap : record.cap ≤ 127) (sector count : Nat) :
    top record sector (min count Geometry.longestTransfer) = top record sector count := by
  have longest : Geometry.longestTransfer = 127 := rfl
  rw [Rung.ext_iff]
  refine ⟨rfl, rfl, ?_⟩
  simp only [top]
  split <;> omega

/-- A link whose drive lets every transfer through, after transfers that may have brought the record
down. -/
structure Link.Recovered (record : Geometry) (drive : Drive) (link : Link Machine) : Prop where
  settled : record.Settled link.record
  cap : 1 ≤ link.record.cap ∧ link.record.cap ≤ 127
  mode : link.record.mode = .lba → record.mode = .lba
  held : ∃ held, link.channel.firmware.drive? record.drive = some held ∧ drive.Spent held ∧
    held.Calm

/-- A link that reaches its drive by address, after transfers that may have brought the record down.
The drive has addresses for the first `limit` sectors. -/
structure Link.ByAddress (record : Geometry) (limit : Nat) (link : Link Machine) : Prop where
  settled : record.Settled link.record
  mode : link.record.mode = .chs
  reaches : ∃ held, link.Reaches held ∧ held.addressed = limit

/-- A link still reaches its drive by address after services that have not touched its shape. -/
theorem Link.ByAddress.patched {record last : Geometry} {limit start : Nat} {bytes : Bytes}
    {link : Link Machine} {channel : Channel Machine} (byAddress : link.ByAddress record limit)
    (settled : link.record.Settled last) (mode : last.mode = .chs)
    (patched : Machine.Patched link.record.drive start bytes link.channel.firmware
      channel.firmware) :
    Link.ByAddress record limit { record := last, channel } where
  settled := byAddress.settled.trans settled
  mode := mode
  reaches := by
    obtain ⟨held, reaches, addressed⟩ := byAddress.reaches
    obtain ⟨written, found, changed⟩ := patched.there held reaches.attached
    refine ⟨written, ⟨?_, ?_, ?_⟩, ?_⟩
    · exact settled.optical.trans reaches.plain
    · dsimp only
      rw [settled.drive]
      exact found
    · exact settled.describes (changed.describes reaches.describes)
    · rw [← addressed, Drive.addressed, Drive.addressed, changed.legacy]

namespace Transfer

variable {drive held : Drive} {sector : Nat} {rung : Rung} {link : Link Machine}

/-- A drive that lets every transfer through holds on the first rung. -/
theorem descend_calm (settings : Settings) (direction : Direction) (below : List Rung)
    (commands : link.Commands drive) (calm : drive.Calm) (mode : link.record.mode = rung.mode)
    (positive : 0 < rung.length) (few : rung.length ≤ 127)
    (track : rung.mode = .chs → rung.length ≤ link.record.restOfTrack sector)
    (has : drive.Has rung.mode sector rung.length) :
    Action.Ends (descend settings direction sector rung below) link
      (fun moved after => moved = rung.length ∧ after.record = rung.settle link.record ∧
        ∃ held, after.channel.firmware.drive? link.record.drive = some held ∧
          drive.Rewritten held)
      (fun _ _ => False) (fun _ _ => False) := by
  apply descend_round
  refine (attempt_answered settings direction commands positive few (by rwa [mode])
    (by rwa [mode])).mono ?_ ?_
  · intro _ channel answered
    obtain ⟨held, attached, accepted⟩ := answered
    exact ⟨rfl, rfl, held, attached, accepted.rewritten⟩
  · intro refusal channel answered
    obtain ⟨-, held, -, declined⟩ := answered
    exact (calm.not_declined declined).elim

/-- A pending failure leads to the next rung, on a drive that lets every transfer through. -/
theorem descend_tripped {returns : Nat → Link Machine → Prop}
    {refuses : DiskError → Link Machine → Prop} (settings : Settings) (direction : Direction)
    (below : List Rung) (commands : link.Commands drive) (tripped : drive.Tripped)
    (mode : link.record.mode = rung.mode) (positive : 0 < rung.length) (few : rung.length ≤ 127)
    (track : rung.mode = .chs → rung.length ≤ link.record.restOfTrack sector)
    (has : drive.Has rung.mode sector rung.length)
    (last : below = [] → ∀ cause after, refuses cause after)
    (next : ∀ next rest held channel, below = next :: rest →
      channel.firmware.drive? link.record.drive = some held → drive.Spent held → held.Calm →
      Action.Ends (descend settings direction sector next rest)
        (lowered next { link with channel }) returns refuses (fun _ _ => False)) :
    Action.Ends (descend settings direction sector rung below) link returns refuses
      (fun _ _ => False) := by
  apply descend_round
  refine (attempt_answered settings direction commands positive few (by rwa [mode])
    (by rwa [mode])).mono ?_ ?_
  · intro _ channel answered
    obtain ⟨held, -, accepted⟩ := answered
    exact (tripped.not_accepted accepted).elim
  · intro refusal channel answered
    obtain ⟨⟨status, rfl⟩, held, attached, declined⟩ := answered
    cases below with
    | nil => exact last rfl _ _
    | cons lower rest =>
      exact next lower rest held channel rfl attached declined.spent (tripped.calm declined)

/-- By address, nothing but addressable sectors is moved. -/
theorem attemptSectors_addressed {record : Geometry} (direction : Direction) (length : Nat)
    (channel : Channel Machine) (attached : channel.firmware.drive? record.drive = some drive)
    (describes : record.Describes drive) (mode : record.mode = .chs) :
    Action.Ends (attemptSectors record direction sector length) channel
      (fun _ _ => sector + length ≤ drive.addressed) (fun _ _ => True) (fun _ _ => True) := by
  apply attemptSectors_of_service (fun _ _ => trivial) (fun _ _ _ => trivial)
  · intro _ linear
    rw [mode] at linear
    cases linear
  · intro room _ address found
    refine (Machine.chsTransfer_serves direction address (UInt8.ofNat length) _ attached).mono ?_
      (fun _ _ _ => trivial)
    intro _ _ serves
    have addressed := describes.addressed found serves
    rwa [toNat_count room] at addressed

/-- A descent by address moves addressable sectors, or fails. -/
theorem descend_byAddress {record : Geometry} {limit : Nat} (settings : Settings)
    (direction : Direction) (below : List Rung) (byAddress : link.ByAddress record limit)
    (mode : ∀ other ∈ rung :: below, other.mode = .chs) (small : sector < UInt64.size) :
    Action.Ends (descend settings direction sector rung below) link
      (fun moved after => moved ≤ Staging.sectors ∧ sector + moved ≤ limit ∧
        after.ByAddress record limit)
      (fun _ _ => True) (fun _ _ => False) := by
  let ready (rung : Rung) (below : List Rung) (lower : Link Machine) : Prop :=
    (∀ other ∈ rung :: below, other.mode = .chs) ∧ lower.ByAddress record limit
  refine descend_of_ready ready ?_ ⟨mode, byAddress⟩
  intro rung below lower before
  obtain ⟨modes, still⟩ := before
  obtain ⟨held, reaches, addressed⟩ := still.reaches
  have current : rung.mode = .chs := modes rung List.mem_cons_self
  rw [attempt_of_plain settings reaches.plain]
  refine ((attemptSectors_ends direction rung.length lower.channel reaches.attached
    reaches.describes small).and (attemptSectors_addressed direction rung.length lower.channel
      reaches.attached reaches.describes still.mode)).mono ?_ ?_
  · intro _ channel result
    obtain ⟨moved, inside⟩ := result
    rw [addressed] at inside
    exact ⟨moved.room, inside, still.patched (.settle rung lower.record) current moved.patched⟩
  · intro refusal channel result
    cases refusal with
    | final cause => trivial
    | retryable status =>
      cases below with
      | nil => trivial
      | cons next rest =>
        have nothing := result.1.trans (.reset lower.record.drive lower.record.drive direction channel)
        refine ⟨fun other member => modes other (List.mem_cons_of_mem rung member), ?_⟩
        exact still.patched (.settle next lower.record)
          (modes next (List.mem_cons_of_mem rung List.mem_cons_self)) (nothing.idle 0)

end Transfer

section

variable {drive : Drive} {sector count : Nat} (settings : Settings) (direction : Direction)
  {link : Link Machine}

/-- A transfer with a drive that lets every transfer through succeeds on the first rung. -/
theorem transfer_calm (commands : link.Commands drive) (calm : drive.Calm)
    (cap : 1 ≤ link.record.cap ∧ link.record.cap ≤ 127) (wanted : 0 < count)
    (has : drive.Has link.record.mode sector count) :
    Action.Ends (transfer settings direction sector count) link
      (fun moved after => moved ≤ Staging.sectors ∧ after.Recovered link.record drive ∧
        after.record.mode = link.record.mode)
      (fun _ _ => False) (fun _ _ => False) := by
  have bounds := @Rung.ladder_bounds link.record sector count _ wanted List.mem_cons_self
  have highest := @Rung.top_length link.record sector count wanted
  have few := Rung.top_few cap.2 sector count
  apply Action.Ends.of_run
    (transfer_eq_descend settings direction sector link commands.reaches.plain wanted)
  refine (Transfer.descend_calm settings direction _ commands calm rfl bounds.1 few bounds.2.2
    (has.shorten highest.2)).mono ?_ (fun _ _ never => never)
  intro moved after result
  obtain ⟨length, record, held, attached, rewritten⟩ := result
  have limit : Staging.sectors = 128 := rfl
  refine ⟨by omega, ⟨?_, ?_, ?_, held, attached, rewritten.spent, calm.rewritten rewritten⟩, ?_⟩
  · rw [record]
    exact .settle _ link.record
  · rw [record]
    simp only [Rung.settle, Rung.top]
    omega
  · rw [record]
    exact id
  · rw [record]
    rfl

/-- A transfer survives a pending failure if its first attempt is for two sectors or more, or if its
sectors have addresses to fall back to. -/
theorem transfer_absorbs (commands : link.Commands drive) (tripped : drive.Tripped)
    (cap : 1 ≤ link.record.cap ∧ link.record.cap ≤ 127) (chsCap : link.record.chsCap ≤ 127)
    (wanted : 0 < count) (has : drive.Has link.record.mode sector count)
    (shelter : 2 ≤ (Rung.top link.record sector count).length ∨
      link.record.mode = .lba ∧ sector + count ≤ drive.addressed) :
    Action.Ends (transfer settings direction sector count) link
      (fun moved after => moved ≤ Staging.sectors ∧ after.Recovered link.record drive ∧
        (after.record.mode = link.record.mode ∨
          (Rung.top link.record sector count).length < 2))
      (fun _ _ => False) (fun _ _ => False) := by
  have bounds := @Rung.ladder_bounds link.record sector count _ wanted List.mem_cons_self
  have highest := @Rung.top_length link.record sector count wanted
  have few := Rung.top_few cap.2 sector count
  apply Action.Ends.of_run
    (transfer_eq_descend settings direction sector link commands.reaches.plain wanted)
  refine Transfer.descend_tripped settings direction _ commands tripped rfl bounds.1 few bounds.2.2
    (has.shorten highest.2) ?_ ?_
  -- A sheltered request does not begin on the last rung.
  · intro bottom
    rcases shelter with long | ⟨linear, -⟩
    · obtain ⟨lower, found, -⟩ := Rung.below_of_long long link.record
      rw [bottom] at found
      cases found
    · rw [Rung.below, List.append_eq_nil_iff, if_pos (by exact linear)] at bottom
      cases bottom.2
  -- The failure is used up by then, so the next rung holds.
  · intro next rest held channel found attached spent calm
    obtain ⟨positive, less, track⟩ := Rung.below_bounds wanted found
    obtain ⟨nextCap, way⟩ := Rung.below_first chsCap found
    have linear : next.mode = .lba → link.record.mode = .lba := by
      intro linear
      rcases way with ⟨-, same⟩ | ⟨-, mode, -, -⟩
      · rw [← same]
        exact linear
      · exact mode
    have nextHas := Rung.below_first_has chsCap wanted found has shelter
    have nextCommands : (Transfer.lowered next { link with channel }).Commands held :=
      commands.spent (.settle next link.record) attached spent linear
    refine (Transfer.descend_calm settings direction rest nextCommands calm rfl positive (by omega)
      track (spent.has nextHas)).mono ?_ (fun _ _ never => never)
    intro moved after result
    obtain ⟨length, record, written, there, rewritten⟩ := result
    have limit : Staging.sectors = 128 := rfl
    have changed : link.record.Settled after.record := by
      rw [record]
      exact (Geometry.Settled.settle next link.record).trans (.settle next _)
    refine ⟨by omega, ⟨changed, ?_, ?_, written, there, ?_, calm.rewritten rewritten⟩, ?_⟩
    · rw [record]
      exact nextCap
    · rw [record]
      exact linear
    · exact spent.trans rewritten.spent
    · rw [record]
      exact way.imp And.right And.left

/-- A transfer that begins with a single sector has nothing but an address to fall back to. -/
theorem transfer_unsheltered (commands : link.Commands drive) (tripped : drive.Tripped)
    (chsCap : link.record.chsCap ≤ 127) (wanted : 0 < count)
    (has : drive.Has link.record.mode sector count)
    (single : (Rung.top link.record sector count).length < 2) :
    Action.Ends (transfer settings direction sector count) link
      (fun moved after => moved ≤ Staging.sectors ∧ link.record.mode = .lba ∧
        sector + moved ≤ drive.addressed ∧ after.ByAddress link.record drive.addressed)
      (fun _ _ => True) (fun _ _ => False) := by
  have bounds := @Rung.ladder_bounds link.record sector count _ wanted List.mem_cons_self
  have highest := @Rung.top_length link.record sector count wanted
  have size := commands.order.intact.size
  have fits := has.fits
  apply Action.Ends.of_run
    (transfer_eq_descend settings direction sector link commands.reaches.plain wanted)
  refine Transfer.descend_tripped settings direction _ commands tripped rfl bounds.1 (by omega)
    bounds.2.2 (has.shorten highest.2) (fun _ _ _ => trivial) ?_
  intro next rest held channel found attached spent calm
  obtain ⟨-, way⟩ := Rung.below_first chsCap found
  rcases way with ⟨long, -⟩ | ⟨-, linear, rfl, rfl⟩
  · omega
  · have nextCommands :
        (Transfer.lowered (Rung.byAddress link.record) { link with channel }).Commands held :=
      commands.spent (.settle (Rung.byAddress link.record) link.record) attached spent nofun
    have byAddress : Link.ByAddress link.record drive.addressed
        (Transfer.lowered (Rung.byAddress link.record) { link with channel }) :=
      ⟨.settle _ link.record, rfl, held, nextCommands.reaches, spent.addressed⟩
    refine (Transfer.descend_byAddress settings direction [] byAddress ?_ (by omega)).mono ?_
      (fun _ _ done => done)
    · intro other member
      rw [List.mem_singleton] at member
      rw [member]
      rfl
    · intro moved after result
      obtain ⟨room, inside, further⟩ := result
      exact ⟨room, linear, inside, further⟩

/-- A transfer by address moves addressable sectors, or fails. -/
theorem transfer_byAddress {record : Geometry} {limit : Nat} (byAddress : link.ByAddress record limit)
    (small : sector < UInt64.size) (wanted : 0 < count) :
    Action.Ends (transfer settings direction sector count) link
      (fun moved after => moved ≤ Staging.sectors ∧ sector + moved ≤ limit ∧
        after.ByAddress record limit)
      (fun _ _ => True) (fun _ _ => False) := by
  obtain ⟨held, reaches, -⟩ := byAddress.reaches
  apply Action.Ends.of_run
    (transfer_eq_descend settings direction sector link reaches.plain wanted)
  refine Transfer.descend_byAddress settings direction _ byAddress ?_ small
  have positive := (@Rung.top_length link.record sector count wanted).1
  intro other member
  rcases List.mem_cons.mp member with rfl | below
  · exact byAddress.mode
  · rcases (Rung.lower_of_below positive below).2 with same | ⟨linear, -⟩
    · exact same.trans byAddress.mode
    · cases linear.symm.trans byAddress.mode

end

end FirmwareDisk
