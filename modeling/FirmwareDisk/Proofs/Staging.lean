import FirmwareDisk.Transfer.Attempt
import FirmwareDisk.Proofs.Action

set_option autoImplicit false

namespace FirmwareDisk

namespace Staging

theorem byteSize_eq : byteSize = 128 * 512 := rfl

theorem checkRegion_sectors {count : Nat} (found : checkRegion 0 (count * sectorSize) = .ok ()) :
    count ≤ sectors := by
  unfold checkRegion at found
  split at found
  · cases found
  · split at found
    · cases found
    · rename_i inside
      rw [Nat.zero_add, Nat.not_lt] at inside
      exact Nat.le_of_mul_le_mul_right inside (by decide)

theorem checkRegion_of_le {count : Nat} (room : count ≤ sectors) :
    checkRegion 0 (count * sectorSize) = .ok () := by
  have inside : count * sectorSize ≤ byteSize := Nat.mul_le_mul_right sectorSize room
  have small := byteSize_eq
  have limit : UInt64.size = 0x10000000000000000 := rfl
  have near : ¬ UInt64.size ≤ 0 + count * sectorSize := by omega
  have within : ¬ byteSize < 0 + count * sectorSize := by omega
  rw [checkRegion, if_neg near, if_neg within]

theorem checkRegion_of_lt {count : Nat} (much : sectors < count) :
    ∃ cause, checkRegion 0 (count * sectorSize) = .error cause := by
  have outside : byteSize < count * sectorSize := Nat.mul_lt_mul_of_pos_right much (by decide)
  unfold checkRegion
  by_cases far : UInt64.size ≤ 0 + count * sectorSize
  · exact ⟨_, by rw [if_pos far]⟩
  · exact ⟨_, by rw [if_neg far, if_pos (by rwa [Nat.zero_add])]⟩

theorem mul_le_byteSize {count : Nat} (room : count ≤ sectors) : count * sectorSize ≤ byteSize :=
  Nat.mul_le_mul_right sectorSize room

theorem length_take_data (staging : Staging) {length : Nat} (room : length ≤ byteSize) :
    (staging.data.take length).length = length := by
  rw [List.length_take, staging.length_data, Nat.min_eq_left room]

theorem data_fill (staging : Staging) (patch : Bytes) (room : patch.length ≤ byteSize) :
    (staging.fill 0 patch).data = patch ++ staging.data.drop patch.length := by
  simp only [fill, List.take_zero, List.nil_append, Nat.sub_zero, Nat.zero_add,
    List.take_of_length_le room]

theorem take_fill (staging : Staging) (patch : Bytes) (room : patch.length ≤ byteSize) :
    (staging.fill 0 patch).data.take patch.length = patch := by
  rw [data_fill staging patch room, List.take_left]

theorem fill_take (staging : Staging) {length : Nat} (room : length ≤ byteSize) :
    staging.fill 0 (staging.data.take length) = staging := by
  have taken := staging.length_take_data room
  have same : (staging.fill 0 (staging.data.take length)).data = staging.data := by
    rw [data_fill _ _ (by omega), taken, List.take_append_drop]
  cases staging
  simp only [fill, Staging.mk.injEq] at same ⊢
  exact ⟨same, trivial⟩

end Staging

namespace Channel

variable {σ ε α : Type}

abbrev lent (channel : Channel σ) (length : Nat) : Lent σ where
  buffer := channel.staging.data.take length
  state := channel.firmware

abbrev returned (channel : Channel σ) (length : Nat) (after : Lent σ) : Channel σ where
  firmware := after.state
  staging := channel.staging.fill 0 (after.buffer.take length)

theorem lend_ends {length : Nat} {service : Action (Lent σ) ε α} {channel : Channel σ}
    {returns : α → Channel σ → Prop} {refuses : ε → Channel σ → Prop}
    {faults : Fault → Channel σ → Prop}
    (served : Action.Ends service (channel.lent length)
      (fun value after => returns value (channel.returned length after))
      (fun cause after => refuses cause (channel.returned length after))
      (fun reason after => faults reason (channel.returned length after))) :
    Action.Ends (lend length service) channel returns refuses faults :=
  served.through (channel.returned length) rfl

end Channel

/-- An attempt begins by checking that the staging buffer has room for it. -/
theorem Transfer.reserve_bind_ends {σ α : Type} {length : Nat}
    {next : Unit → Action (Channel σ) Refusal α} {channel : Channel σ}
    {returns : α → Channel σ → Prop} {refuses : Refusal → Channel σ → Prop}
    {faults : Fault → Channel σ → Prop}
    (missing : ∀ cause, Staging.checkRegion 0 length = .error cause →
      refuses (.final cause) channel)
    (present : Staging.checkRegion 0 length = .ok () →
      Action.Ends (next ()) channel returns refuses faults) :
    Action.Ends (reserve length >>= next) channel returns refuses faults := by
  cases checked : Staging.checkRegion 0 length with
  | error cause =>
    unfold Action.Ends
    rw [Action.bind_apply]
    simp only [reserve, checked, Action.mapError, Action.ofOutcome, Outcome.ofExcept,
      Outcome.mapError]
    exact missing cause checked
  | ok =>
    unfold Action.Ends
    rw [Action.bind_apply]
    simp only [reserve, checked, Action.mapError, Action.ofOutcome, Outcome.ofExcept,
      Outcome.mapError]
    exact present checked

/-- An attempt at plain sectors comes down to one service, which is lent that many sectors of the
staging buffer. -/
theorem Transfer.attemptSectors_of_service {σ : Type} [Firmware σ] {record : Geometry}
    {direction : Direction} {sector length : Nat} {channel : Channel σ}
    {returns : Unit → Channel σ → Prop} {refuses : Refusal → Channel σ → Prop}
    {faults : Fault → Channel σ → Prop}
    (missing : ∀ cause, Staging.checkRegion 0 (length * sectorSize) = .error cause →
      refuses (.final cause) channel)
    (unaddressed : record.mode = .chs → ∀ cause, record.address sector = .error cause →
      refuses (.final cause) channel)
    (linear : length ≤ Staging.sectors → record.mode = .lba →
      Action.Ends
        (Firmware.blockTransfer direction record.drive (DiskAddressPacket.encode {
          blocks := UInt16.ofNat length
          buffer := channel.staging.startPointer
          block := UInt64.ofNat sector }))
        (channel.lent (length * sectorSize))
        (fun value after => returns value (channel.returned (length * sectorSize) after))
        (fun status after =>
          refuses (.retryable status) (channel.returned (length * sectorSize) after))
        (fun reason after => faults reason (channel.returned (length * sectorSize) after)))
    (addressed : length ≤ Staging.sectors → record.mode = .chs →
      ∀ address, record.address sector = .ok address →
      Action.Ends
        (Firmware.chsTransfer direction record.drive address (UInt8.ofNat length))
        (channel.lent (length * sectorSize))
        (fun value after => returns value (channel.returned (length * sectorSize) after))
        (fun status after =>
          refuses (.retryable status) (channel.returned (length * sectorSize) after))
        (fun reason after => faults reason (channel.returned (length * sectorSize) after))) :
    Action.Ends (attemptSectors record direction sector length) channel returns refuses faults := by
  apply reserve_bind_ends missing
  intro reserved
  have room := Staging.checkRegion_sectors reserved
  cases mode : record.mode with
  | lba =>
    dsimp only
    rw [packet, Action.ends_look_bind]
    apply Action.Ends.mapError
    apply Channel.lend_ends
    exact linear room mode
  | chs =>
    dsimp only
    cases found : record.address sector with
    | error cause => exact unaddressed mode cause found
    | ok address =>
      apply Action.Ends.mapError
      apply Channel.lend_ends
      exact addressed room mode address found

theorem Transfer.toNat_blocks {length : Nat} (room : length ≤ Staging.sectors) :
    (UInt16.ofNat length).toNat = length := by
  have limit : Staging.sectors = 128 := rfl
  rw [UInt16.toNat_ofNat', Nat.mod_eq_of_lt (by omega)]

theorem Transfer.toNat_count {length : Nat} (room : length ≤ Staging.sectors) :
    (UInt8.ofNat length).toNat = length := by
  have limit : Staging.sectors = 128 := rfl
  rw [UInt8.toNat_ofNat', Nat.mod_eq_of_lt (by omega)]

theorem Transfer.toNat_block {sector : Nat} (small : sector < UInt64.size) :
    (UInt64.ofNat sector).toNat = sector := by
  rw [UInt64.toNat_ofNat', Nat.mod_eq_of_lt small]

theorem Transfer.le_blocks {length ratio : Nat} (positive : 0 < ratio) :
    length ≤ (length + (ratio - 1)) / ratio * ratio := by
  have whole := Nat.div_add_mod (length + (ratio - 1)) ratio
  have rest := Nat.mod_lt (length + (ratio - 1)) positive
  rw [Nat.mul_comm]
  omega

end FirmwareDisk
