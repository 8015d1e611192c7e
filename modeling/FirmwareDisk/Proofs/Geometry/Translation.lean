import FirmwareDisk.Geometry.Addressing

set_option autoImplicit false

namespace FirmwareDisk

/-- Heads and sectors per track whose numbers fit into the bytes of an address. Heads are counted
from zero and sectors from one, so there is room for one head more. -/
structure Nameable (heads sectors : Nat) : Prop where
  heads_pos : 1 ≤ heads
  heads_le : heads ≤ 256
  sectors_pos : 1 ≤ sectors
  sectors_le : sectors ≤ 255

def Chs.Within (address : Chs) (heads sectors : Nat) : Prop :=
  address.head.toNat < heads ∧ 1 ≤ address.sector.toNat ∧ address.sector.toNat ≤ sectors

namespace Chs

variable {address : Chs} {heads sectors linear : Nat}

theorem linear?_eq_some_iff :
    address.linear? heads sectors = some linear ↔ address.Within heads sectors ∧
      (address.cylinder.toNat * heads + address.head.toNat) * sectors +
        (address.sector.toNat - 1) = linear := by
  have zero : address.sector = 0 ↔ address.sector.toNat = 0 :=
    ⟨fun same => by rw [same]; rfl, fun same => UInt8.toNat_inj.mp same⟩
  unfold linear? Within
  split
  · rename_i outside
    rw [zero] at outside
    simp only [reduceCtorEq, false_iff]
    omega
  · rename_i inside
    rw [zero] at inside
    have within : address.head.toNat < heads ∧ 1 ≤ address.sector.toNat ∧
        address.sector.toNat ≤ sectors := by omega
    simp only [within, and_self, true_and, Option.some.injEq]

end Chs

namespace Nameable

variable {heads sectors linear : Nat} {address : Chs}

theorem linear?_lt (shape : Nameable heads sectors)
    (found : address.linear? heads sectors = some linear) : linear + 1 < UInt64.size := by
  obtain ⟨-, rfl⟩ := Chs.linear?_eq_some_iff.mp found
  have cylinder := address.cylinder.toNat_lt
  have head := address.head.toNat_lt
  have sector := address.sector.toNat_lt
  have tracks : address.cylinder.toNat * heads ≤ 0x10000 * 256 :=
    Nat.mul_le_mul (Nat.le_of_lt cylinder) shape.heads_le
  have whole : (address.cylinder.toNat * heads + address.head.toNat) * sectors ≤
      (0x10000 * 256 + 0x100) * 255 :=
    Nat.mul_le_mul (by omega) shape.sectors_le
  have limit : UInt64.size = 0x10000000000000000 := rfl
  omega

theorem linear64_eq {ε : Type} (shape : Nameable heads sectors) (address : Chs) :
    (address.linear64 heads sectors : Outcome ε (Option Nat)) =
      .ok (address.linear? heads sectors) := by
  unfold Chs.linear64
  cases found : address.linear? heads sectors with
  | none => rfl
  | some linear =>
    have bound := shape.linear?_lt found
    have inside : ¬ UInt64.size ≤ linear + 1 := by omega
    simp only [inside, ↓reduceIte]

end Nameable

namespace Geometry

variable {record : Geometry} {sector : Nat} {address : Chs}

theorem address_error {cause : DiskError} (missing : record.address sector = .error cause) :
    cause = .outOfRange record.drive.name sector := by
  unfold Geometry.address at missing
  dsimp only at missing
  split at missing
  · simp only [Except.error.injEq] at missing
    exact missing.symm
  · cases missing

/-- A sector has an address exactly if its cylinder has, unless it is beyond the last sector that is
looked for. The address is made of the sector's track and of its place there. -/
theorem address_eq_ok_iff (shape : Nameable record.heads record.sectors) :
    record.address sector = .ok address ↔
      sector ≤ addressableSectors ∧
        address.cylinder.toNat = sector / record.sectors / record.heads ∧
        address.cylinder.toNat < addressableCylinders ∧
        address.head.toNat = sector / record.sectors % record.heads ∧
        address.sector.toNat = sector % record.sectors + 1 := by
  have trackLength : record.trackLength = record.sectors := Nat.max_eq_right shape.sectors_pos
  have trackCount : record.trackCount = record.heads := Nat.max_eq_right shape.heads_pos
  have place := Nat.mod_lt sector shape.sectors_pos
  have head := Nat.mod_lt (sector / record.sectors) shape.heads_pos
  have mostHeads := shape.heads_le
  have mostSectors := shape.sectors_le
  simp only [Geometry.address, trackLength, trackCount, addressableCylinders]
  generalize sector / record.sectors / record.heads = cylinder
  generalize sector / record.sectors % record.heads = track at head
  generalize sector % record.sectors = offset at place
  split
  · simp only [reduceCtorEq, false_iff]
    omega
  · rename_i near
    obtain ⟨named, side, spot⟩ := address
    simp only [Except.ok.injEq, Chs.mk.injEq, ← UInt16.toNat_inj, ← UInt8.toNat_inj,
      UInt16.toNat_ofNat', UInt8.toNat_ofNat']
    omega

/-- A cylinder is addressable exactly if its sectors are among those of the first 1024 cylinders. -/
theorem cylinder_lt_iff {heads sectors : Nat} (shape : Nameable heads sectors) (sector : Nat) :
    sector / sectors / heads < 1024 ↔ sector < 1024 * heads * sectors := by
  rw [Nat.div_lt_iff_lt_mul shape.heads_pos, Nat.div_lt_iff_lt_mul shape.sectors_pos]

/-- Which sectors have an address, and which error the others give. -/
theorem address_decided (shape : Nameable record.heads record.sectors) (sector : Nat) :
    ((∃ address, record.address sector = .ok address) ↔
      sector ≤ addressableSectors ∧ sector < 1024 * record.heads * record.sectors) ∧
    (¬ (sector ≤ addressableSectors ∧ sector < 1024 * record.heads * record.sectors) →
      record.address sector = .error (.outOfRange record.drive.name sector)) := by
  have trackLength : record.trackLength = record.sectors := Nat.max_eq_right shape.sectors_pos
  have trackCount : record.trackCount = record.heads := Nat.max_eq_right shape.heads_pos
  rw [← cylinder_lt_iff shape]
  simp only [Geometry.address, trackLength, trackCount, addressableCylinders]
  split
  · simp only [reduceCtorEq, exists_false, false_iff, implies_true, and_true]
    omega
  · rename_i near
    have inside : sector ≤ addressableSectors ∧ sector / record.sectors / record.heads < 1024 := by
      omega
    simp only [inside, Except.ok.injEq, exists_eq', and_self, not_true_eq_false, false_implies]

theorem linear?_of_address (shape : Nameable record.heads record.sectors)
    (found : record.address sector = .ok address) :
    address.linear? record.heads record.sectors = some sector := by
  obtain ⟨-, cylinder, -, head, place⟩ := (address_eq_ok_iff shape).mp found
  have placeLt := Nat.mod_lt sector shape.sectors_pos
  have headLt := Nat.mod_lt (sector / record.sectors) shape.heads_pos
  have track : address.cylinder.toNat * record.heads + address.head.toNat =
      sector / record.sectors := by
    rw [cylinder, head, Nat.mul_comm, Nat.div_add_mod]
  refine Chs.linear?_eq_some_iff.mpr ⟨⟨by omega, by omega, by omega⟩, ?_⟩
  rw [track, place, Nat.add_sub_cancel, Nat.mul_comm, Nat.div_add_mod]

/-- An address of the geometry is the one of the sector that it means. -/
theorem address_of_linear? (shape : Nameable record.heads record.sectors)
    (named : address.linear? record.heads record.sectors = some sector)
    (addressable : address.cylinder.toNat < addressableCylinders)
    (near : sector ≤ addressableSectors) : record.address sector = .ok address := by
  obtain ⟨⟨head, first, last⟩, rfl⟩ := Chs.linear?_eq_some_iff.mp named
  have offset : address.sector.toNat - 1 < record.sectors := by omega
  have track : ((address.cylinder.toNat * record.heads + address.head.toNat) * record.sectors +
      (address.sector.toNat - 1)) / record.sectors =
        address.cylinder.toNat * record.heads + address.head.toNat := by
    rw [Nat.add_comm, Nat.add_mul_div_right _ _ shape.sectors_pos, Nat.div_eq_of_lt offset,
      Nat.zero_add]
  refine (address_eq_ok_iff shape).mpr ⟨near, ?_, addressable, ?_, ?_⟩
  · rw [track, Nat.add_comm, Nat.add_mul_div_right _ _ shape.heads_pos, Nat.div_eq_of_lt head,
      Nat.zero_add]
  · rw [track, Nat.mul_add_mod_of_lt head]
  · rw [Nat.mul_add_mod_of_lt offset, Nat.sub_add_cancel first]

/-- Sectors and addresses of a geometry that an address has room for, one to one. The sectors with an
address are known, and the address is one of the geometry that means its sector; any other sector is
refused by name. Every address of the geometry means a sector, and is the address of it unless the
sector is beyond the last one that is looked for. So no two sectors share an address. -/
theorem address_bijective (record : Geometry) (shape : Nameable record.heads record.sectors) :
    (∀ sector, (∃ address, record.address sector = .ok address) ↔
      sector ≤ 1024 * 256 * 63 ∧ sector < 1024 * record.heads * record.sectors) ∧
    (∀ sector, ¬ (sector ≤ 1024 * 256 * 63 ∧ sector < 1024 * record.heads * record.sectors) →
      record.address sector = .error (.outOfRange record.drive.name sector)) ∧
    (∀ sector address, record.address sector = .ok address →
      address.cylinder.toNat < 1024 ∧ address.head.toNat < record.heads ∧
      1 ≤ address.sector.toNat ∧ address.sector.toNat ≤ record.sectors ∧
      (address.linear64 record.heads record.sectors : Outcome DiskError _) = .ok (some sector)) ∧
    (∀ address : Chs, address.cylinder.toNat < 1024 → address.head.toNat < record.heads →
      1 ≤ address.sector.toNat → address.sector.toNat ≤ record.sectors →
      ∃ sector,
        (address.linear64 record.heads record.sectors : Outcome DiskError _) = .ok (some sector) ∧
        (sector ≤ 1024 * 256 * 63 → record.address sector = .ok address)) ∧
    ∀ sector other address, record.address sector = .ok address →
      record.address other = .ok address → sector = other := by
  refine ⟨fun sector => (address_decided shape sector).1,
    fun sector => (address_decided shape sector).2, ?_, ?_, ?_⟩
  · intro sector address found
    have named := linear?_of_address shape found
    obtain ⟨⟨head, first, last⟩, -⟩ := Chs.linear?_eq_some_iff.mp named
    obtain ⟨-, -, addressable, -, -⟩ := (address_eq_ok_iff shape).mp found
    exact ⟨addressable, head, first, last, by rw [shape.linear64_eq, named]⟩
  · intro address addressable head first last
    have named := Chs.linear?_eq_some_iff.mpr ⟨⟨head, first, last⟩, rfl⟩
    exact ⟨_, by rw [shape.linear64_eq, named], address_of_linear? shape named addressable⟩
  · intro sector other address found same
    have one := linear?_of_address shape found
    rw [linear?_of_address shape same] at one
    exact (Option.some.inj one).symm

/-- A record whose geometry leaves no room in the bytes of an address. -/
def widest : Geometry where
  drive := 0x80
  mode := .chs
  optical := false
  fbOverride := true
  sectors := 255
  heads := 256
  cylinders := 1024
  cap := 63
  chsCap := 63
  totalSectors := 1024 * 256 * 255

theorem address_bijective_widest :
    Nameable widest.heads widest.sectors ∧
      (∃ address, widest.address (1024 * 256 * 63) = .ok address) ∧
      widest.address (1024 * 256 * 63 + 1) = .error (.outOfRange "hd0" (1024 * 256 * 63 + 1)) := by
  have shape : Nameable widest.heads widest.sectors :=
    ⟨by decide, by decide, by decide, by decide⟩
  obtain ⟨found, missing, -⟩ := address_bijective widest shape
  exact ⟨shape, (found _).mpr (by decide), missing _ (by decide)⟩

end Geometry

end FirmwareDisk
