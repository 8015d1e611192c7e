import FirmwareDisk.Proofs.Machine.Order
import FirmwareDisk.Proofs.Transfer.Confinement
import FirmwareDisk.Proofs.Transfer.Descents

set_option autoImplicit false

namespace FirmwareDisk

/-- Sectors that a drive has; by address, they have to have addresses as well. -/
structure Drive.Has (drive : Drive) (mode : Addressing) (sector count : Nat) : Prop where
  fits : sector + count ≤ BlockDevice.totalSectors drive.medium
  addressed : mode = .chs → sector + count ≤ drive.addressed

/-- A link to a drive in order, which is read by linear number only if it has the extended services.
-/
structure Link.Commands (link : Link Machine) (drive : Drive) : Prop where
  reaches : link.Reaches drive
  order : drive.InOrder
  extended : link.record.mode = .lba → drive.extensions = true

namespace Drive

variable {drive held : Drive} {mode : Addressing} {sector count length : Nat}

theorem addressed_le (drive : Drive)
    (shape : Addressable drive.legacy.heads drive.legacy.sectors) :
    drive.addressed ≤ Geometry.addressableSectors := by
  have most : drive.addressed ≤ 1024 * 255 * 63 :=
    Nat.mul_le_mul (Nat.mul_le_mul (Nat.min_le_right _ _) shape.heads_le) shape.sectors_le
  have limit : Geometry.addressableSectors = 1024 * 256 * 63 := rfl
  omega

theorem Has.shorten (has : drive.Has mode sector count) (less : length ≤ count) :
    drive.Has mode sector length where
  fits := by
    have fits := has.fits
    omega
  addressed byAddress := by
    have addressed := has.addressed byAddress
    omega

/-- What a transfer costs a drive that is in order. -/
inductive Spent (drive : Drive) : Drive → Prop where
  | intro (medium : Medium) (pending : Nat) (alike : medium.Alike drive.medium) :
      Spent drive { drive with medium, transientFailures := pending }

theorem Rewritten.spent (rewritten : drive.Rewritten held) : drive.Spent held := by
  obtain ⟨medium, rfl, alike⟩ := rewritten
  exact .intro medium drive.transientFailures alike

theorem Declined.spent (declined : drive.Declined count held) : drive.Spent held := by
  obtain ⟨pending, rfl⟩ := declined.rest
  exact .intro drive.medium pending (.refl drive.medium)

theorem Spent.inOrder (spent : drive.Spent held) (order : drive.InOrder) : held.InOrder := by
  obtain ⟨medium, pending, alike⟩ := spent
  exact ⟨order.answers, order.working, order.intact.of_alike alike⟩

theorem Spent.has (spent : drive.Spent held) (has : drive.Has mode sector count) :
    held.Has mode sector count := by
  obtain ⟨medium, pending, alike⟩ := spent
  refine ⟨?_, has.addressed⟩
  rw [alike.totalSectors]
  exact has.fits

theorem Spent.describes {record : Geometry} (spent : drive.Spent held)
    (describes : record.Describes drive) : record.Describes held := by
  obtain ⟨medium, pending, alike⟩ := spent
  exact ⟨describes.plain, describes.heads, describes.sectors, describes.shape⟩

theorem Spent.trans {last : Drive} (front : drive.Spent held) (back : held.Spent last) :
    drive.Spent last := by
  obtain ⟨medium, pending, alike⟩ := front
  obtain ⟨content, left, again⟩ := back
  exact .intro content left (again.trans alike)

theorem Spent.addressed (spent : drive.Spent held) : held.addressed = drive.addressed := by
  obtain ⟨medium, pending, alike⟩ := spent
  rfl

theorem Spent.extensions (spent : drive.Spent held) : held.extensions = drive.extensions := by
  obtain ⟨medium, pending, alike⟩ := spent
  rfl

end Drive

theorem Link.Commands.spent {link : Link Machine} {drive held : Drive} {record : Geometry}
    {channel : Channel Machine} (commands : link.Commands drive)
    (settled : link.record.Settled record)
    (attached : channel.firmware.drive? link.record.drive = some held) (spent : drive.Spent held)
    (extended : record.mode = .lba → link.record.mode = .lba) :
    Link.Commands { record, channel } held where
  reaches := by
    refine ⟨settled.optical.trans commands.reaches.plain, ?_,
      settled.describes (spent.describes commands.reaches.describes)⟩
    dsimp only
    rw [settled.drive]
    exact attached
  order := spent.inOrder commands.order
  extended linear := by
    rw [spent.extensions]
    exact commands.extended (extended linear)

/-- A record by which a drive in order can be read and written. -/
structure Geometry.Suits (record : Geometry) (drive : Drive) : Prop where
  plain : record.optical = false
  describes : record.Describes drive
  order : drive.InOrder
  extended : record.mode = .lba → drive.extensions = true

theorem Geometry.Suits.commands {record settled : Geometry} {drive held : Drive}
    {channel : Channel Machine} (suits : record.Suits drive) (changed : record.Settled settled)
    (mode : settled.mode = .lba → record.mode = .lba)
    (attached : channel.firmware.drive? record.drive = some held) (spent : drive.Spent held) :
    Link.Commands { record := settled, channel } held where
  reaches := by
    refine ⟨changed.optical.trans suits.plain, ?_,
      changed.describes (spent.describes suits.describes)⟩
    dsimp only
    rw [changed.drive]
    exact attached
  order := spent.inOrder suits.order
  extended linear := by
    rw [spent.extensions]
    exact suits.extended (mode linear)

namespace Geometry

variable {record : Geometry} {drive : Drive} {sector length : Nat}

/-- A drive's addressable sectors have addresses, and on one track the drive serves them. -/
theorem Describes.serves (describes : record.Describes drive) (positive : 0 < length)
    (few : length ≤ 127) (track : length ≤ record.restOfTrack sector)
    (addressed : sector + length ≤ drive.addressed) :
    ∃ address, record.address sector = .ok address ∧
      address.linear? drive.legacy.heads drive.legacy.sectors = some sector ∧
      drive.Serves address (UInt8.ofNat length).toNat (length * sectorSize) := by
  have shape := describes.shape
  have headLimit := shape.heads_le
  have sectorLimit := shape.sectors_le
  have counted := Transfer.toNat_count (Nat.le_succ_of_le few)
  have inside : sector < min drive.legacy.cylinders 1024 * drive.legacy.heads *
      drive.legacy.sectors := by
    rw [Drive.addressed] at addressed
    omega
  have cylinder : sector / drive.legacy.sectors / drive.legacy.heads <
      min drive.legacy.cylinders 1024 := by
    apply Nat.div_lt_of_lt_mul
    rw [Nat.mul_comm]
    apply Nat.div_lt_of_lt_mul
    rwa [Nat.mul_comm]
  have near : sector ≤ addressableSectors := by
    have bound := drive.addressed_le shape
    omega
  have trackLength : record.trackLength = drive.legacy.sectors := by
    rw [trackLength, describes.sectors]
    exact Nat.max_eq_right shape.sectors_pos
  have trackCount : record.trackCount = drive.legacy.heads := by
    rw [trackCount, describes.heads]
    exact Nat.max_eq_right shape.heads_pos
  -- The bounds leave no reason to refuse the sector an address.
  cases found : record.address sector with
  | error cause =>
    have within : ¬ (addressableSectors < sector ∨ addressableCylinders ≤
        sector / record.trackLength / record.trackCount) := by
      rw [trackLength, trackCount, addressableCylinders]
      omega
    simp only [Geometry.address, within, ↓reduceIte] at found
    cases found
  | ok address =>
    have own : Addressable record.heads record.sectors := by
      rw [describes.heads, describes.sectors]
      exact shape
    obtain ⟨-, cylinders, -, head, place⟩ := address_fields own found
    have headed := Nat.mod_lt (sector / drive.legacy.sectors) shape.heads_pos
    rw [describes.heads, describes.sectors] at cylinders head
    rw [describes.sectors] at place
    rw [restOfTrack, trackLength] at track
    refine ⟨address, rfl, describes.linear?_address found, ?_⟩
    rw [counted]
    refine ⟨Nat.ne_of_gt positive, ?_, by omega, by omega, by omega, rfl⟩
    intro zero
    rw [zero] at place
    exact absurd place (Nat.succ_ne_zero _).symm

/-- Sectors that are served by the address of the first one are addressable. -/
theorem Describes.addressed {address : Chs} {count : UInt8} {size : Nat}
    (describes : record.Describes drive) (found : record.address sector = .ok address)
    (serves : drive.Serves address count.toNat size) :
    sector + count.toNat ≤ drive.addressed := by
  have own : Addressable record.heads record.sectors := by
    rw [describes.heads, describes.sectors]
    exact describes.shape
  obtain ⟨-, cylinder, addressable, head, place⟩ := address_fields own found
  obtain ⟨-, -, onTrack, -, onDrive, -⟩ := serves
  rw [describes.heads, describes.sectors] at cylinder head
  rw [describes.sectors] at place
  have limit : addressableCylinders = 1024 := rfl
  have whole := Nat.div_add_mod sector drive.legacy.sectors
  have tracks := Nat.div_add_mod (sector / drive.legacy.sectors) drive.legacy.heads
  have headed := Nat.mod_lt (sector / drive.legacy.sectors) describes.shape.heads_pos
  rw [← cylinder] at tracks
  have lastTrack : sector / drive.legacy.sectors + 1 ≤
      min drive.legacy.cylinders 1024 * drive.legacy.heads := by
    have cylinders : address.cylinder.toNat + 1 ≤ min drive.legacy.cylinders 1024 := by omega
    have upTo := Nat.mul_le_mul_right drive.legacy.heads cylinders
    rw [Nat.add_mul, Nat.one_mul, Nat.mul_comm address.cylinder.toNat] at upTo
    omega
  have lastSector := Nat.mul_le_mul_right drive.legacy.sectors lastTrack
  rw [Nat.add_mul, Nat.one_mul, Nat.mul_comm (sector / drive.legacy.sectors)] at lastSector
  rw [Drive.addressed]
  omega

end Geometry

namespace Transfer

variable {drive : Drive} {sector length : Nat}

/-- An attempt at sectors that a drive in order has. -/
theorem attempt_answered (settings : Settings) (direction : Direction) {link : Link Machine}
    (commands : link.Commands drive) (positive : 0 < length) (few : length ≤ 127)
    (track : link.record.mode = .chs → length ≤ link.record.restOfTrack sector)
    (has : drive.Has link.record.mode sector length) :
    Action.Ends (attempt settings link.record direction sector length) link.channel
      (fun _ after => ∃ held, after.firmware.drive? link.record.drive = some held ∧
        drive.Accepted length held)
      (fun refusal after => (∃ status, refusal = .retryable status) ∧
        ∃ held, after.firmware.drive? link.record.drive = some held ∧ drive.Declined length held)
      (fun _ _ => False) := by
  have room : length ≤ Staging.sectors := Nat.le_succ_of_le few
  have lent := link.channel.staging.length_take_data (Staging.mul_le_byteSize room)
  have describes := commands.reaches.describes
  have fits := has.fits
  have size := commands.order.intact.size
  rw [attempt_of_plain settings commands.reaches.plain]
  apply attemptSectors_of_service
  · intro cause refused
    rw [Staging.checkRegion_of_le room] at refused
    cases refused
  · intro mode cause refused
    obtain ⟨address, found, -⟩ :=
      describes.serves positive few (track mode) (has.addressed mode)
    rw [found] at refused
    cases refused
  · intro _ mode
    have served := Machine.blockTransfer_answered direction
      { blocks := UInt16.ofNat length
        buffer := link.channel.staging.startPointer
        block := UInt64.ofNat sector }
      (link.channel.lent (length * sectorSize))
      commands.reaches.attached commands.order describes.plain (commands.extended mode)
      (by rw [toNat_blocks room]; exact positive) (by rw [toNat_blocks room]; exact lent)
      (by rw [toNat_blocks room, toNat_block (by omega)]; exact fits)
    rw [toNat_blocks room] at served
    exact served.mono (fun _ _ done => done) (fun status _ refused => ⟨⟨status, rfl⟩, refused⟩)
  · intro _ mode address found
    obtain ⟨_, again, named, serves⟩ :=
      describes.serves positive few (track mode) (has.addressed mode)
    cases found.symm.trans again
    have served := Machine.chsTransfer_answered direction (UInt8.ofNat length)
      (link.channel.lent (length * sectorSize))
      commands.reaches.attached commands.order describes.plain describes.shape
      (by rw [lent]; exact serves) named (by rw [toNat_count room]; exact fits)
    rw [toNat_count room] at served
    exact served.mono (fun _ _ done => done) (fun status _ refused => ⟨⟨status, rfl⟩, refused⟩)

end Transfer

end FirmwareDisk
