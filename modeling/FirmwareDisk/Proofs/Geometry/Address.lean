import FirmwareDisk.Proofs.Geometry.Translation

set_option autoImplicit false

namespace FirmwareDisk

/-- The heads and sectors per track that the record of a drive may have. -/
structure Addressable (heads sectors : Nat) : Prop where
  heads_pos : 1 ≤ heads
  heads_le : heads ≤ 255
  sectors_pos : 1 ≤ sectors
  sectors_le : sectors ≤ 63

theorem Addressable.nameable {heads sectors : Nat} (shape : Addressable heads sectors) :
    Nameable heads sectors where
  heads_pos := shape.heads_pos
  heads_le := Nat.le_trans shape.heads_le (by decide)
  sectors_pos := shape.sectors_pos
  sectors_le := Nat.le_trans shape.sectors_le (by decide)

namespace Geometry

variable {record : Geometry} {sector : Nat} {address : Chs}

theorem address_fields (shape : Addressable record.heads record.sectors)
    (found : record.address sector = .ok address) :
    sector ≤ addressableSectors ∧
      address.cylinder.toNat = sector / record.sectors / record.heads ∧
      address.cylinder.toNat < addressableCylinders ∧
      address.head.toNat = sector / record.sectors % record.heads ∧
      address.sector.toNat = sector % record.sectors + 1 :=
  (address_eq_ok_iff shape.nameable).mp found

/-- Under the geometry that it was made with, an address leads back to its sector. -/
theorem linear?_address (shape : Addressable record.heads record.sectors)
    (found : record.address sector = .ok address) :
    address.linear? record.heads record.sectors = some sector :=
  linear?_of_address shape.nameable found

end Geometry

theorem Chs.linear64_eq {ε : Type} {heads sectors : Nat} (address : Chs)
    (shape : Addressable heads sectors) :
    (address.linear64 heads sectors : Outcome ε (Option Nat)) =
      .ok (address.linear? heads sectors) :=
  shape.nameable.linear64_eq address

end FirmwareDisk
