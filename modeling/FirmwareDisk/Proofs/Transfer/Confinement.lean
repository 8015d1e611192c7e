import FirmwareDisk.Proofs.Firmware.Packet
import FirmwareDisk.Proofs.Transfer.Trails

set_option autoImplicit false

namespace FirmwareDisk

/-- An exchange that asks for `length` sectors from `start` on, and lends a buffer for exactly
these. By address, they lie on one track of an addressable cylinder. -/
inductive Exchange.Asks (record : Geometry) (direction : Direction) (start length : Nat) :
    Exchange → Prop where
  | block (packet : DiskAddressPacket) (raw : Bytes) (answer : Outcome Status Unit)
      (decoded : DiskAddressPacket.decode? raw = some packet)
      (blocks : packet.blocks.toNat = length) (block : packet.block.toNat = start)
      (positive : 1 ≤ length) (few : length ≤ 127) :
      Asks record direction start length
        { request := .block direction record.drive raw, lent := length * sectorSize, answer }
  | chs (address : Chs) (count : UInt8) (answer : Outcome Status Unit)
      (cylinder : address.cylinder.toNat = start / record.sectors / record.heads)
      (head : address.head.toNat = start / record.sectors % record.heads)
      (place : address.sector.toNat = start % record.sectors + 1)
      (counted : count.toNat = length) (addressable : address.cylinder.toNat < 1024)
      (headed : address.head.toNat < record.heads) (positive : 1 ≤ length)
      (track : address.sector.toNat - 1 + length ≤ record.sectors) (sectors : record.sectors ≤ 63)
      (linear : address.linear? record.heads record.sectors = some start) :
      Asks record direction start length
        { request := .chs direction record.drive address count
          lent := length * sectorSize
          answer }

/-- A reset of the drive, or an exchange that asks for some of the sectors from `first` up to
`stop`. -/
def Exchange.Within (record : Geometry) (direction : Direction) (first stop : Nat)
    (exchange : Exchange) : Prop :=
  exchange = { request := .reset record.drive } ∨
    ∃ start length, first ≤ start ∧ start + length ≤ stop ∧
      exchange.Asks record direction start length

namespace Exchange

variable {record : Geometry} {direction : Direction} {start length : Nat} {exchange : Exchange}

theorem Asks.of_settled {settled : Geometry} (changed : record.Settled settled)
    (asks : exchange.Asks settled direction start length) :
    exchange.Asks record direction start length := by
  obtain ⟨_, _, rfl⟩ := changed
  cases asks with
  | block packet raw answer decoded blocks block positive few =>
    exact .block packet raw answer decoded blocks block positive few
  | chs address count answer cylinder head place counted addressable headed positive track
      sectors linear =>
    exact .chs address count answer cylinder head place counted addressable headed positive track
      sectors linear

/-- A later part of a request lies inside the request. -/
theorem Within.widen {settled : Geometry} {first last inner outer : Nat}
    (changed : record.Settled settled) (begins : first ≤ inner) (ends : outer ≤ last)
    (within : exchange.Within settled direction inner outer) :
    exchange.Within record direction first last := by
  rcases within with reset | ⟨start, length, low, high, asks⟩
  · left
    rw [reset, changed.drive]
  · right
    exact ⟨start, length, by omega, by omega, asks.of_settled changed⟩

end Exchange

namespace Rung

/-- A rung by address never reaches beyond the end of its track. -/
theorem ladder_bounds {record : Geometry} {sector count : Nat} {rung : Rung} (wanted : 0 < count)
    (member : rung ∈ ladder record sector count) :
    1 ≤ rung.length ∧ rung.length ≤ (top record sector count).length ∧
      (rung.mode = .chs → rung.length ≤ record.restOfTrack sector) := by
  have highest := @top_length record sector count wanted
  have onTrack (byAddress : record.mode = .chs) :
      (top record sector count).length ≤ record.restOfTrack sector := by
    simp only [top, byAddress, ↓reduceIte]
    omega
  rcases List.mem_cons.mp member with same | below
  · subst same
    exact ⟨highest.1, Nat.le_refl _, onTrack⟩
  · have bounds := below_length highest.1 below
    refine ⟨bounds.1, bounds.2, ?_⟩
    intro byAddress
    rcases List.mem_append.mp below with short | last
    · obtain ⟨length, -, rfl⟩ := List.mem_map.mp short
      exact Nat.le_trans bounds.2 (onTrack byAddress)
    · split at last
      · rw [List.mem_singleton] at last
        subst last
        exact record.restOfTrack_pos sector
      · cases last

end Rung

namespace Transfer

variable {record : Geometry} {direction : Direction} {sector : Nat} {pointer : FarPointer}

/-- An attempt asks for the sectors of its rung. -/
theorem Try.asks (attempt : Try record direction sector pointer)
    (shape : Addressable record.heads record.sectors) (small : sector < UInt64.size)
    (positive : 1 ≤ attempt.rung.length) (few : attempt.rung.length ≤ 127)
    (track : attempt.rung.mode = .chs → attempt.rung.length ≤ record.restOfTrack sector) :
    attempt.exchange.Asks record direction sector attempt.rung.length := by
  obtain ⟨rung, request, answer, asked⟩ := attempt
  dsimp only at positive few track
  rw [Try.exchange]
  dsimp only
  unfold Rung.request at asked
  cases mode : rung.mode with
  | lba =>
    simp only [mode, Except.ok.injEq] at asked
    subst asked
    exact .block _ _ answer (DiskAddressPacket.decode?_encode _)
      (toNat_blocks (Nat.le_succ_of_le few)) (toNat_block small) positive few
  | chs =>
    simp only [mode] at asked
    cases found : record.address sector with
    | error cause =>
      simp only [found] at asked
      cases asked
    | ok address =>
      simp only [found, Except.ok.injEq] at asked
      subst asked
      have trackLength : record.trackLength = record.sectors := Nat.max_eq_right shape.sectors_pos
      have rest := track mode
      rw [Geometry.restOfTrack, trackLength] at rest
      obtain ⟨-, cylinder, addressable, head, place⟩ := Geometry.address_fields shape found
      have headed := Nat.mod_lt (sector / record.sectors) shape.heads_pos
      have counted := toNat_count (Nat.le_succ_of_le few)
      exact .chs address _ answer cylinder head place counted addressable (by omega) positive (by omega)
        shape.sectors_le (Geometry.linear?_address shape found)

theorem mem_exchanges {tries : List (Try record direction sector pointer)} {exchange : Exchange}
    (member : exchange ∈ exchanges tries) :
    exchange = { request := .reset record.drive } ∨ ∃ attempt ∈ tries, exchange = attempt.exchange := by
  induction tries with
  | nil => cases member
  | cons first rest ih =>
    cases rest with
    | nil =>
      rw [exchanges, List.map_singleton, List.intersperse_singleton, List.mem_singleton] at member
      exact Or.inr ⟨first, List.mem_cons_self, member⟩
    | cons second others =>
      rw [exchanges_cons (List.cons_ne_nil second others)] at member
      rcases List.mem_cons.mp member with here | further
      · exact Or.inr ⟨first, List.mem_cons_self, here⟩
      · rcases List.mem_cons.mp further with reset | later
        · exact Or.inl reset
        · refine (ih later).imp_right ?_
          rintro ⟨attempt, listed, same⟩
          exact ⟨attempt, List.mem_cons_of_mem first listed, same⟩

variable {current after : Geometry} {ladder : List Rung}
  {tries : List (Try record direction sector pointer)} {trailing : List Exchange}
  {outcome : Outcome DiskError Nat}

theorem Ending.trailing_reset (ending : Ending record direction sector pointer current ladder tries
    trailing outcome after) :
    ∀ exchange ∈ trailing, exchange = { request := .reset record.drive } := by
  cases ending with
  | unaddressed => exact fun exchange member => List.mem_singleton.mp member
  | held => exact List.forall_mem_nil _
  | exhausted => exact List.forall_mem_nil _
  | faulted => exact List.forall_mem_nil _

theorem Ending.settled (ending : Ending record direction sector pointer current ladder tries
    trailing outcome after) : current.Settled after := by
  cases ending with
  | held last => exact .settle last.rung current
  | unaddressed last status lowest => exact .settle lowest current
  | exhausted last =>
    split
    · exact .refl current
    · exact .settle last.rung current
  | faulted last =>
    split
    · exact .refl current
    · exact .settle last.rung current

end Transfer

/-- However a transfer ends, what it asked for lies inside its request, and the record has only come
down. -/
theorem transfer_within {σ : Type} [Firmware σ] (settings : Settings) (direction : Direction)
    {sector count : Nat} (link : Link (Watched σ)) (plain : link.record.optical = false)
    (shape : Addressable link.record.heads link.record.sectors) (cap : link.record.cap ≤ 127)
    (small : sector < UInt64.size) (wanted : 0 < count) :
    ∃ asked,
      (transfer settings direction sector count link).2.transcript = link.transcript ++ asked ∧
      (∀ exchange ∈ asked, exchange.Within link.record direction sector (sector + count)) ∧
      link.record.Settled (transfer settings direction sector count link).2.record := by
  have highest := @Rung.top_length link.record sector count wanted
  have few := Rung.top_few cap sector count
  by_cases hopeless : link.record.mode = .chs ∧ ∃ cause, link.record.address sector = .error cause
  · obtain ⟨cause, run⟩ := transfer_impossible settings direction sector link plain wanted
      (Or.inr hopeless)
    rw [run]
    exact ⟨[], (List.append_nil _).symm, List.forall_mem_nil _, .refl link.record⟩
  · have named (byAddress : link.record.mode = .chs) :
        ∃ address, link.record.address sector = .ok address := by
      cases found : link.record.address sector with
      | ok address => exact ⟨address, rfl⟩
      | error cause => exact (hopeless ⟨byAddress, cause, found⟩).elim
    obtain ⟨tries, trailing, transcript, trail⟩ := transfer_trail settings direction sector link
      plain wanted (Nat.le_succ_of_le few) named
    refine ⟨_, transcript, ?_, trail.ending.settled⟩
    intro exchange member
    rcases List.mem_append.mp member with here | behind
    · rcases Transfer.mem_exchanges here with reset | ⟨attempt, listed, same⟩
      · exact Or.inl reset
      · have climbed := trail.climbs.subset (List.mem_map_of_mem listed)
        obtain ⟨positive, less, track⟩ := Rung.ladder_bounds wanted climbed
        have asks := attempt.asks shape small positive (Nat.le_trans less few) track
        rw [same]
        exact Or.inr ⟨sector, attempt.rung.length, Nat.le_refl sector, by omega, asks⟩
    · exact Or.inl (trail.ending.trailing_reset exchange behind)

end FirmwareDisk
