import FirmwareDisk.Firmware.Packet
import FirmwareDisk.Proofs.Bytes

set_option autoImplicit false

namespace FirmwareDisk

theorem FarPointer.toNat_toDword (pointer : FarPointer) :
    pointer.toDword.toNat = pointer.segment.toNat * 0x10000 + pointer.offset.toNat := by
  have segment := pointer.segment.toNat_lt
  have offset := pointer.offset.toNat_lt
  rw [toDword, UInt32.toNat_ofNat']
  omega

@[simp] theorem FarPointer.ofDword_toDword (pointer : FarPointer) :
    ofDword pointer.toDword = pointer := by
  have offset := pointer.offset.toNat_lt
  have upper : (pointer.segment.toNat * 0x10000 + pointer.offset.toNat) / 0x10000 =
      pointer.segment.toNat := by
    omega
  have lower : (pointer.segment.toNat * 0x10000 + pointer.offset.toNat) % 0x10000 =
      pointer.offset.toNat := by
    omega
  obtain ⟨segment, offset⟩ := pointer
  simp only [ofDword, toNat_toDword, FarPointer.mk.injEq]
  constructor
  · apply UInt16.toNat_inj.mp
    rw [upper, UInt16.toNat_ofNat', Nat.mod_eq_of_lt segment.toNat_lt]
  · apply UInt16.toNat_inj.mp
    rw [UInt16.toNat_ofNat', lower]

@[simp] theorem FarPointer.toDword_ofDword (dword : UInt32) : (ofDword dword).toDword = dword := by
  have fits := dword.toNat_lt
  apply UInt32.toNat_inj.mp
  rw [toNat_toDword, ofDword, UInt16.toNat_ofNat', UInt16.toNat_ofNat']
  omega

theorem FarPointer.linear_ofLinear {address : Nat} (reachable : address < 0x100000) :
    (ofLinear address).linear = address := by
  rw [linear, ofLinear, UInt16.toNat_ofNat', UInt16.toNat_ofNat']
  omega

namespace DiskAddressPacket

@[simp] theorem decode?_encode (packet : DiskAddressPacket) :
    decode? packet.encode = some packet := by
  have size : (Bytes.byte packet.encode 0).toNat = byteSize := rfl
  have blocks : Bytes.word 2 packet.encode 2 = packet.blocks.toNat :=
    Bytes.word_of_slice rfl packet.blocks.toNat_lt
  have buffer : Bytes.word 4 packet.encode 4 = packet.buffer.toDword.toNat :=
    Bytes.word_of_slice rfl packet.buffer.toDword.toNat_lt
  have block : Bytes.word 8 packet.encode 8 = packet.block.toNat :=
    Bytes.word_of_slice rfl packet.block.toNat_lt
  simp only [decode?, size, ↓reduceIte, Bytes.word16, Bytes.word32, Bytes.word64, blocks, buffer,
    block, UInt16.ofNat_toNat, UInt32.ofNat_toNat, UInt64.ofNat_toNat, FarPointer.ofDword_toDword]

theorem decode?_eq_some (raw : Bytes) (packet : DiskAddressPacket) :
    decode? raw = some packet ↔ Bytes.byte raw 0 = 16 ∧ packet = {
      blocks := Bytes.word16 raw 2
      buffer := .ofDword (Bytes.word32 raw 4)
      block := Bytes.word64 raw 8 } := by
  have sized : (Bytes.byte raw 0).toNat = byteSize ↔ Bytes.byte raw 0 = 16 :=
    UInt8.toNat_inj (b := 16)
  rw [decode?, Option.ite_none_right_eq_some, Option.some.injEq, sized, eq_comm (a := packet)]

/-- The bytes that a packet was decoded from are those of the packet, but for the second one, which
is reserved. -/
theorem encode_of_decode? {raw : Bytes} {packet : DiskAddressPacket}
    (length : raw.length = byteSize) (decoded : decode? raw = some packet) :
    packet.encode = raw.set 1 0 := by
  obtain ⟨size, rfl⟩ := (decode?_eq_some raw packet).mp decoded
  obtain ⟨first, second, rest, rfl⟩ : ∃ first second rest, raw = first :: second :: rest := by
    match raw, length with
    | first :: second :: rest, _ => exact ⟨first, second, rest, rfl⟩
  have sixteen : first = 16 := size
  have long : rest.length = 14 := Nat.succ.inj (Nat.succ.inj length)
  simp only [encode, FarPointer.toDword_ofDword]
  rw [Bytes.ofNat_word16 (by rw [length]; decide), Bytes.ofNat_word32 (by rw [length]; decide),
    Bytes.ofNat_word64 (by rw [length]; decide), List.append_assoc, List.append_assoc,
    Bytes.slice_append_slice _ 4 4 8, Bytes.slice_append_slice _ 2 2 12, sixteen]
  have fields : Bytes.slice (16 :: second :: rest) 2 14 = rest :=
    List.take_of_length_le (Nat.le_of_eq long)
  rw [fields]
  rfl

end DiskAddressPacket

/-- Packets of a kind lie in the bytes from `start` up to `stop` of blocks of one size. What is
written there is what is read, the other bytes stay as they were, and a block that is filled with
what it says itself stays as it is. -/
structure Resides {π : Type} (write : π → Bytes → Bytes) (read : Bytes → π)
    (size start stop : Nat) : Prop where
  read_write : ∀ packet raw, raw.length = size → read (write packet raw) = packet
  size_kept : ∀ packet raw, raw.length = size → (write packet raw).length = size
  others_kept : ∀ packet raw, raw.length = size → ∀ index, index < start ∨ stop ≤ index →
    (write packet raw)[index]? = raw[index]?
  write_read : ∀ raw, raw.length = size → write (read raw) raw = raw

namespace DriveParameters

variable (parameters : DriveParameters) {raw : Bytes}

@[simp] theorem length_toBytes : parameters.toBytes.length = 24 := by
  simp only [toBytes, List.length_append, Bytes.length_ofNat]

/-- What is written into a block is what is read from it. -/
theorem ofBytes_writeInto (room : 26 ≤ raw.length) :
    ofBytes (parameters.writeInto raw) = parameters := by
  have block : Bytes.slice (parameters.writeInto raw) 2 24 = parameters.toBytes :=
    Bytes.slice_overlay (by rw [length_toBytes]; exact room)
  have flags : Bytes.word 2 (parameters.writeInto raw) 2 = parameters.flags.toNat :=
    Bytes.word_of_block block 0 (by decide) rfl parameters.flags.toNat_lt
  have cylinders : Bytes.word 4 (parameters.writeInto raw) 4 = parameters.cylinders.toNat :=
    Bytes.word_of_block block 2 (by decide) rfl parameters.cylinders.toNat_lt
  have heads : Bytes.word 4 (parameters.writeInto raw) 8 = parameters.heads.toNat :=
    Bytes.word_of_block block 6 (by decide) rfl parameters.heads.toNat_lt
  have sectors : Bytes.word 4 (parameters.writeInto raw) 12 = parameters.sectors.toNat :=
    Bytes.word_of_block block 10 (by decide) rfl parameters.sectors.toNat_lt
  have totalSectors :
      Bytes.word 8 (parameters.writeInto raw) 16 = parameters.totalSectors.toNat :=
    Bytes.word_of_block block 14 (by decide) rfl parameters.totalSectors.toNat_lt
  have bytesPerSector :
      Bytes.word 2 (parameters.writeInto raw) 24 = parameters.bytesPerSector.toNat :=
    Bytes.word_of_block block 22 (by decide) rfl parameters.bytesPerSector.toNat_lt
  simp only [ofBytes, Bytes.word16, Bytes.word32, Bytes.word64, flags, cylinders, heads, sectors,
    totalSectors, bytesPerSector, UInt16.ofNat_toNat, UInt32.ofNat_toNat, UInt64.ofNat_toNat]

theorem toBytes_ofBytes (room : 26 ≤ raw.length) :
    (ofBytes raw).toBytes = Bytes.slice raw start 24 := by
  simp only [toBytes, ofBytes]
  rw [Bytes.ofNat_word16 (by omega), Bytes.ofNat_word32 (by omega), Bytes.ofNat_word32 (by omega),
    Bytes.ofNat_word32 (by omega), Bytes.ofNat_word64 (by omega), Bytes.ofNat_word16 (by omega),
    Bytes.slice_append_slice raw 2 2 4, Bytes.slice_append_slice raw 2 6 4,
    Bytes.slice_append_slice raw 2 10 4, Bytes.slice_append_slice raw 2 14 8,
    Bytes.slice_append_slice raw 2 22 2]
  rfl

/-- The fields can as well be written one by one, each to its own place. -/
theorem writeInto_eq_overlays (room : 26 ≤ raw.length) :
    parameters.writeInto raw =
      let flags := Bytes.overlay raw 2 (Bytes.ofNat 2 parameters.flags.toNat)
      let cylinders := Bytes.overlay flags 4 (Bytes.ofNat 4 parameters.cylinders.toNat)
      let heads := Bytes.overlay cylinders 8 (Bytes.ofNat 4 parameters.heads.toNat)
      let sectors := Bytes.overlay heads 12 (Bytes.ofNat 4 parameters.sectors.toNat)
      let totalSectors := Bytes.overlay sectors 16 (Bytes.ofNat 8 parameters.totalSectors.toNat)
      Bytes.overlay totalSectors 24 (Bytes.ofNat 2 parameters.bytesPerSector.toNat) := by
  have next : ∀ (patch field : Bytes) (place : Nat), place = start + patch.length →
      (patch ++ field).length ≤ 24 →
      Bytes.overlay (Bytes.overlay raw start patch) place field =
        Bytes.overlay raw start (patch ++ field) := by
    intro patch field place adjacent short
    have two : start = 2 := rfl
    exact Bytes.overlay_overlay adjacent (by omega)
  simp only [writeInto, toBytes]
  rw [← next _ _ 24, ← next _ _ 16, ← next _ _ 12, ← next _ _ 8, ← next _ _ 4]
  · rfl
  all_goals
    simp only [List.length_append, Bytes.length_ofNat, start, Nat.reduceAdd, Nat.reduceLeDiff]

theorem resides : Resides writeInto ofBytes byteSize 2 26 where
  read_write parameters raw length := parameters.ofBytes_writeInto (by rw [length]; decide)
  size_kept parameters raw length := by rw [writeInto, Bytes.length_overlay, length]
  others_kept parameters raw _ index outside := by
    refine Bytes.getElem?_overlay_outside ?_
    rwa [length_toBytes]
  write_read raw length := by
    rw [writeInto, toBytes_ofBytes (by rw [length]; decide), Bytes.overlay_slice]

end DriveParameters

namespace OpticalPacket

variable (packet : OpticalPacket) {raw : Bytes}

@[simp] theorem length_toBytes : packet.toBytes.length = 7 := by
  rw [toBytes, List.length_append, Bytes.length_ofNat, List.length_cons, List.length_cons,
    List.length_singleton]

/-- What is written into a packet is what is read from it. -/
theorem ofBytes_writeInto (room : 8 ≤ raw.length) :
    ofBytes (packet.writeInto raw) = packet := by
  have block : Bytes.slice (packet.writeInto raw) 1 7 = packet.toBytes :=
    Bytes.slice_overlay (by rw [length_toBytes]; exact room)
  have mediaType : Bytes.byte (packet.writeInto raw) 1 = packet.mediaType :=
    Bytes.byte_of_block block 0 (by decide)
  have driveNumber : Bytes.byte (packet.writeInto raw) 2 = packet.driveNumber :=
    Bytes.byte_of_block block 1 (by decide)
  have controllerNumber : Bytes.byte (packet.writeInto raw) 3 = packet.controllerNumber :=
    Bytes.byte_of_block block 2 (by decide)
  have imageBlock : Bytes.word 4 (packet.writeInto raw) 4 = packet.imageBlock.toNat :=
    Bytes.word_of_block block 3 (by decide) rfl packet.imageBlock.toNat_lt
  simp only [ofBytes, Bytes.word32, mediaType, driveNumber, controllerNumber, imageBlock,
    UInt32.ofNat_toNat]

theorem toBytes_ofBytes (room : 8 ≤ raw.length) :
    (ofBytes raw).toBytes = Bytes.slice raw start 7 := by
  have bytes : (ofBytes raw).toBytes = [Bytes.byte raw 1] ++ ([Bytes.byte raw 2] ++
      ([Bytes.byte raw 3] ++ Bytes.ofNat 4 (Bytes.word32 raw 4).toNat)) := rfl
  rw [bytes, ← Bytes.slice_one (by omega), ← Bytes.slice_one (by omega),
    ← Bytes.slice_one (by omega), Bytes.ofNat_word32 (by omega), Bytes.slice_append_slice raw 3 1 4,
    Bytes.slice_append_slice raw 2 1 5, Bytes.slice_append_slice raw 1 1 6]
  rfl

theorem resides : Resides writeInto ofBytes byteSize 1 8 where
  read_write packet raw length := packet.ofBytes_writeInto (by rw [length]; decide)
  size_kept packet raw length := by rw [writeInto, Bytes.length_overlay, length]
  others_kept packet raw _ index outside := by
    refine Bytes.getElem?_overlay_outside ?_
    rwa [length_toBytes]
  write_read raw length := by
    rw [writeInto, toBytes_ofBytes (by rw [length]; decide), Bytes.overlay_slice]

end OpticalPacket

/-- Every packet is read as it was written. What was read is written as it was, but for the reserved
byte of a disk address packet, which is written as zero, and a disk address packet is read from just
the bytes that begin with its size. A pointer survives as a word, as a word does as a pointer, and
the linear addresses of the first mebibyte survive as pointers. -/
theorem packets_survive :
    (∀ packet : DiskAddressPacket,
      packet.encode.length = 16 ∧ DiskAddressPacket.decode? packet.encode = some packet) ∧
    (∀ raw : Bytes, raw.length = 16 →
      ((DiskAddressPacket.decode? raw).isSome ↔ raw[0]? = some 16) ∧
      ∀ packet, DiskAddressPacket.decode? raw = some packet → packet.encode = raw.set 1 0) ∧
    Resides DriveParameters.writeInto DriveParameters.ofBytes 66 2 26 ∧
    Resides OpticalPacket.writeInto OpticalPacket.ofBytes 19 1 8 ∧
    (∀ pointer : FarPointer, FarPointer.ofDword pointer.toDword = pointer) ∧
    (∀ dword : UInt32, (FarPointer.ofDword dword).toDword = dword) ∧
    ∀ address < 0x100000, (FarPointer.ofLinear address).linear = address := by
  refine ⟨fun packet => ⟨?_, packet.decode?_encode⟩,
    fun raw length => ⟨?_, fun packet decoded => ?_⟩, DriveParameters.resides, OpticalPacket.resides,
    FarPointer.ofDword_toDword, FarPointer.toDword_ofDword,
    fun address reachable => FarPointer.linear_ofLinear reachable⟩
  · simp only [DiskAddressPacket.encode, List.length_append, List.length_cons, List.length_nil,
      Bytes.length_ofNat]
  · obtain ⟨first, rest, rfl⟩ := List.exists_cons_of_length_pos (show 0 < raw.length by omega)
    rw [Option.isSome_iff_exists, List.getElem?_cons_zero, Option.some.injEq]
    exact ⟨fun ⟨packet, decoded⟩ => ((DiskAddressPacket.decode?_eq_some _ packet).mp decoded).1,
      fun size => ⟨_, (DiskAddressPacket.decode?_eq_some _ _).mpr ⟨size, rfl⟩⟩⟩
  · exact DiskAddressPacket.encode_of_decode? length decoded

/-- Packets of all kinds, in bytes that were not written by the codecs themselves. -/
theorem packets_survive_foreign :
    DiskAddressPacket.encode ⟨0x0102, ⟨0x0506, 0x0304⟩, 0x0e0d0c0b0a090807⟩ =
        [16, 0, 2, 1, 4, 3, 6, 5, 7, 8, 9, 10, 11, 12, 13, 14] ∧
      (DiskAddressPacket.decode? (List.replicate 16 15)).isNone ∧
      (DriveParameters.ofBytes (List.replicate 66 0xee)).writeInto (List.replicate 66 0xee) =
        List.replicate 66 0xee ∧
      (OpticalPacket.writeInto ⟨1, 2, 3, 0x07060504⟩ (List.replicate 19 0xee))[8]? = some 0xee ∧
      (FarPointer.ofLinear 0xfffff).linear = 0xfffff := by
  obtain ⟨-, foreign, drive, optical, -, -, linear⟩ := packets_survive
  refine ⟨?_, ?_, drive.write_read _ (by decide),
    optical.others_kept _ _ (by decide) 8 (by decide), linear _ (by decide)⟩
  · exact (foreign [16, 0xaa, 2, 1, 4, 3, 6, 5, 7, 8, 9, 10, 11, 12, 13, 14] (by decide)).2 _
      (by decide)
  · rw [← Option.not_isSome, Bool.not_eq_true', Bool.eq_false_iff]
    intro decoded
    have sized := (foreign (List.replicate 16 15) (by decide)).1.mp decoded
    exact absurd sized (by decide)

end FirmwareDisk
