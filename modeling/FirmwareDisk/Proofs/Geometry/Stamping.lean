import FirmwareDisk.Error
import FirmwareDisk.Geometry.FbOverride
import FirmwareDisk.Proofs.Bytes

set_option autoImplicit false

namespace FirmwareDisk.FbOverride

variable {fbOverride : FbOverride} {sector buffer : Bytes} {ε : Type}

@[simp] theorem length_toBytes (fbOverride : FbOverride) : fbOverride.toBytes.length = 11 := rfl

theorem ofNat_signature : Bytes.ofNat 2 signature = [0x55, 0xaa] := rfl

theorem lastWord_eq_signature_iff (long : 512 ≤ sector.length) :
    lastWord sector = signature ↔ Bytes.slice sector 0x1fe 2 = [0x55, 0xaa] := by
  constructor
  · intro signed
    have bytes : Bytes.ofNat 2 (lastWord sector) = Bytes.slice sector 0x1fe 2 :=
      Bytes.ofNat_word (by rw [signatureStart]; omega)
    rw [← bytes, signed, ofNat_signature]
  · intro bytes
    rw [lastWord, Bytes.word, signatureStart, bytes]
    rfl

theorem ofSector?_eq_some_iff_marks (long : 512 ≤ sector.length) :
    ofSector? sector = some fbOverride ↔
      (Bytes.slice sector 0x1b4 4 = [0x46, 0x42, 0x42, 0x46] ∧
        Bytes.slice sector 0x1fe 2 = [0x55, 0xaa]) ∧ fieldsOf sector = fbOverride := by
  rw [ofSector?, Option.ite_none_right_eq_some, lastWord_eq_signature_iff long, hasMark,
    decide_eq_true_eq, Option.some.injEq, markStart, mark]

theorem toBytes_fieldsOf (long : 512 ≤ sector.length)
    (marked : Bytes.slice sector 0x1b4 4 = mark) :
    (fieldsOf sector).toBytes = Bytes.slice sector 0x1ad 11 := by
  have fields : (fieldsOf sector).toBytes = [Bytes.byte sector 0x1ad] ++
      (Bytes.ofNat 2 (Bytes.word16 sector 0x1ae).toNat ++ ([Bytes.byte sector 0x1b0] ++
        ([Bytes.byte sector 0x1b1] ++
          (Bytes.ofNat 2 (Bytes.word16 sector 0x1b2).toNat ++ mark)))) := rfl
  rw [fields, ← marked, Bytes.ofNat_word16 (by omega), Bytes.ofNat_word16 (by omega),
    ← Bytes.slice_one (by omega), ← Bytes.slice_one (by omega), ← Bytes.slice_one (by omega),
    Bytes.slice_append_slice sector 0x1b2 2 4, Bytes.slice_append_slice sector 0x1b1 1 6,
    Bytes.slice_append_slice sector 0x1b0 1 7, Bytes.slice_append_slice sector 0x1ae 2 8,
    Bytes.slice_append_slice sector 0x1ad 1 10]

theorem fieldsOf_of_slice (block : Bytes.slice sector 0x1ad 11 = fbOverride.toBytes) :
    fieldsOf sector = fbOverride := by
  have cap : Bytes.byte sector 0x1ad = fbOverride.cap := Bytes.byte_of_block block 0 (by decide)
  have lba : Bytes.word 2 sector 0x1ae = fbOverride.lba.toNat :=
    Bytes.word_of_block block 1 (by decide) rfl fbOverride.lba.toNat_lt
  have sectors : Bytes.byte sector 0x1b0 = fbOverride.sectorsPerTrack :=
    Bytes.byte_of_block block 3 (by decide)
  have heads : Bytes.byte sector 0x1b1 = fbOverride.heads := Bytes.byte_of_block block 4 (by decide)
  have bootBase : Bytes.word 2 sector 0x1b2 = fbOverride.bootBase.toNat :=
    Bytes.word_of_block block 5 (by decide) rfl fbOverride.bootBase.toNat_lt
  simp only [fieldsOf, Bytes.word16, cap, lba, sectors, heads, bootBase, UInt16.ofNat_toNat]

/-- A sector carries an override exactly if it has its bytes in their place, with the mark behind
them, and ends in the boot signature. -/
theorem ofSector?_eq_some_iff (long : 512 ≤ sector.length) :
    ofSector? sector = some fbOverride ↔
      Bytes.slice sector 0x1ad 11 = fbOverride.toBytes ∧
        Bytes.slice sector 0x1fe 2 = [0x55, 0xaa] := by
  rw [ofSector?_eq_some_iff_marks long]
  constructor
  · rintro ⟨⟨marked, signed⟩, rfl⟩
    exact ⟨(toBytes_fieldsOf long marked).symm, signed⟩
  · rintro ⟨block, signed⟩
    refine ⟨⟨?_, signed⟩, fieldsOf_of_slice block⟩
    exact Bytes.slice_of_block block 7 (by decide)

theorem ofBuffer_of_long (long : 512 ≤ buffer.length) :
    (ofBuffer buffer : Outcome ε (Option FbOverride)) = .ok (ofSector? buffer) := by
  have bounds : markStart + mark.length ≤ 512 ∧ sectorBytes = 512 := by decide
  rw [ofBuffer, bounds.2, if_neg (by omega), if_neg (by omega)]

/-- An override is found in a buffer exactly if the buffer reaches to the end of a sector, and that
sector carries it. -/
theorem ofBuffer_eq_some_iff :
    (ofBuffer buffer : Outcome ε (Option FbOverride)) = .ok (some fbOverride) ↔
      512 ≤ buffer.length ∧ ofSector? buffer = some fbOverride := by
  constructor
  · intro found
    rw [ofBuffer] at found
    split at found
    · cases found
    · split at found
      · cases found
      · rename_i reaches
        have carried : ofSector? buffer = some fbOverride := Outcome.ok.inj found
        have marked : hasMark buffer = true := by
          rw [ofSector?, Option.ite_none_right_eq_some] at carried
          exact carried.1.1
        exact ⟨Nat.not_lt.mp fun short => reaches ⟨marked, short⟩, carried⟩
  · rintro ⟨long, carried⟩
    rw [ofBuffer_of_long long, carried]

theorem ofBuffer_found_iff :
    (∃ fbOverride, (ofBuffer buffer : Outcome ε (Option FbOverride)) = .ok (some fbOverride)) ↔
      Bytes.slice buffer 0x1b4 4 = [0x46, 0x42, 0x42, 0x46] ∧
        Bytes.slice buffer 0x1fe 2 = [0x55, 0xaa] := by
  simp only [ofBuffer_eq_some_iff]
  constructor
  · rintro ⟨fbOverride, long, carried⟩
    exact ((ofSector?_eq_some_iff_marks long).mp carried).1
  · rintro ⟨marked, signed⟩
    have long : 0x1fe + 2 ≤ buffer.length :=
      Bytes.inside_of_length_slice (by decide) (by rw [signed]; rfl)
    exact ⟨fieldsOf buffer, long, (ofSector?_eq_some_iff_marks long).mpr ⟨⟨marked, signed⟩, rfl⟩⟩

section Writing

variable (fbOverride buffer)

@[simp] theorem length_writeInto : (fbOverride.writeInto buffer).length = buffer.length := by
  rw [writeInto, Bytes.length_overlay, Bytes.length_overlay]

theorem stamp_of_long (long : 512 ≤ buffer.length) :
    (fbOverride.stamp buffer : Outcome ε Bytes) = .ok (fbOverride.writeInto buffer) := by
  rw [stamp, if_neg (by rw [sectorBytes]; omega)]

/-- The fields can as well be written one by one, each to its own place. -/
theorem writeInto_eq_overlays (long : 512 ≤ buffer.length) :
    fbOverride.writeInto buffer =
      let cap := Bytes.overlay buffer 0x1ad [fbOverride.cap]
      let lba := Bytes.overlay cap 0x1ae (Bytes.ofNat 2 fbOverride.lba.toNat)
      let sectors := Bytes.overlay lba 0x1b0 [fbOverride.sectorsPerTrack]
      let heads := Bytes.overlay sectors 0x1b1 [fbOverride.heads]
      let bootBase := Bytes.overlay heads 0x1b2 (Bytes.ofNat 2 fbOverride.bootBase.toNat)
      let marked := Bytes.overlay bootBase 0x1b4 mark
      Bytes.overlay marked 0x1fe (Bytes.ofNat 2 signature) := by
  have next : ∀ (patch field : Bytes) (place : Nat), place = 0x1ad + patch.length →
      (patch ++ field).length ≤ 11 →
      Bytes.overlay (Bytes.overlay buffer 0x1ad patch) place field =
        Bytes.overlay buffer 0x1ad (patch ++ field) := by
    intro patch field place adjacent short
    exact Bytes.overlay_overlay adjacent (by omega)
  have fields : fbOverride.toBytes = [fbOverride.cap] ++ Bytes.ofNat 2 fbOverride.lba.toNat ++
      [fbOverride.sectorsPerTrack] ++ [fbOverride.heads] ++
        Bytes.ofNat 2 fbOverride.bootBase.toNat ++ mark := rfl
  rw [writeInto, start, signatureStart, fields, ← next _ _ 0x1b4, ← next _ _ 0x1b2,
    ← next _ _ 0x1b1, ← next _ _ 0x1b0, ← next _ _ 0x1ae]
  all_goals
    simp only [List.length_append, List.length_cons, List.length_nil, Bytes.length_ofNat, mark,
      Nat.reduceAdd, Nat.reduceLeDiff]

theorem slice_writeInto (long : 512 ≤ buffer.length) :
    Bytes.slice (fbOverride.writeInto buffer) 0x1ad 11 = fbOverride.toBytes ∧
      Bytes.slice (fbOverride.writeInto buffer) 0x1fe 2 = [0x55, 0xaa] := by
  rw [writeInto, ofNat_signature, start, signatureStart]
  constructor
  · rw [Bytes.slice_overlay_outside (Or.inl (by decide))]
    exact Bytes.slice_overlay (by rw [length_toBytes]; omega)
  · exact Bytes.slice_overlay (by rw [Bytes.length_overlay]; exact long)

theorem getElem?_writeInto {index : Nat} (fields : ¬ (0x1ad ≤ index ∧ index < 0x1b8))
    (ending : ¬ (0x1fe ≤ index ∧ index < 0x200)) :
    (fbOverride.writeInto buffer)[index]? = buffer[index]? := by
  rw [writeInto, ofNat_signature, start, signatureStart, Bytes.getElem?_overlay_outside,
    Bytes.getElem?_overlay_outside]
  · rw [length_toBytes]
    omega
  · have two : [(0x55 : UInt8), 0xaa].length = 2 := rfl
    omega

end Writing

theorem ofBuffer_writeInto (long : 512 ≤ buffer.length) :
    (ofBuffer (fbOverride.writeInto buffer) : Outcome ε (Option FbOverride)) =
      .ok (some fbOverride) := by
  have still : 512 ≤ (fbOverride.writeInto buffer).length := by
    rwa [length_writeInto]
  exact ofBuffer_eq_some_iff.mpr
    ⟨still, (ofSector?_eq_some_iff still).mpr (slice_writeInto fbOverride buffer long)⟩

theorem writeInto_of_ofSector? (long : 512 ≤ sector.length)
    (carried : ofSector? sector = some fbOverride) : fbOverride.writeInto sector = sector := by
  obtain ⟨block, signed⟩ := (ofSector?_eq_some_iff long).mp carried
  rw [writeInto, ofNat_signature, start, signatureStart, ← block, Bytes.overlay_slice, ← signed,
    Bytes.overlay_slice]

/-- To stamp what was found changes nothing. -/
theorem stamp_of_found (found : (ofBuffer buffer : Outcome ε (Option FbOverride)) =
    .ok (some fbOverride)) : (fbOverride.stamp buffer : Outcome ε Bytes) = .ok buffer := by
  obtain ⟨long, carried⟩ := ofBuffer_eq_some_iff.mp found
  rw [stamp_of_long fbOverride buffer long, writeInto_of_ofSector? long carried]

/-- What is stamped into a buffer that reaches to the end of a sector is found there, and nothing but
the override, its mark and the signature has changed. An override is found exactly where the mark and
the signature are, and to stamp what was found changes nothing, so that to stamp once more what was
stamped does not either. -/
theorem survives_stamp (buffer : Bytes) :
    (512 ≤ buffer.length →
      (∃ found, (ofBuffer buffer : Outcome ε (Option FbOverride)) = .ok found) ∧
      ∀ fbOverride : FbOverride, ∃ stamped,
        (fbOverride.stamp buffer : Outcome ε Bytes) = .ok stamped ∧
        (ofBuffer stamped : Outcome ε (Option FbOverride)) = .ok (some fbOverride) ∧
        (∀ index, ¬ (0x1ad ≤ index ∧ index < 0x1b8) → ¬ (0x1fe ≤ index ∧ index < 0x200) →
          stamped[index]? = buffer[index]?) ∧
        stamped.length = buffer.length ∧
        (fbOverride.stamp stamped : Outcome ε Bytes) = .ok stamped) ∧
    ((∃ fbOverride, (ofBuffer buffer : Outcome ε (Option FbOverride)) = .ok (some fbOverride)) ↔
      Bytes.slice buffer 0x1b4 4 = [0x46, 0x42, 0x42, 0x46] ∧
        Bytes.slice buffer 0x1fe 2 = [0x55, 0xaa]) ∧
    ∀ fbOverride : FbOverride,
      (ofBuffer buffer : Outcome ε (Option FbOverride)) = .ok (some fbOverride) →
        (fbOverride.stamp buffer : Outcome ε Bytes) = .ok buffer := by
  refine ⟨fun long => ⟨⟨_, ofBuffer_of_long long⟩, fun fbOverride => ?_⟩, ofBuffer_found_iff,
    fun _ found => stamp_of_found found⟩
  have found : (ofBuffer (fbOverride.writeInto buffer) : Outcome ε (Option FbOverride)) =
      .ok (some fbOverride) := ofBuffer_writeInto long
  exact ⟨fbOverride.writeInto buffer, stamp_of_long fbOverride buffer long, found,
    fun _ fields ending => getElem?_writeInto fbOverride buffer fields ending,
    length_writeInto fbOverride buffer, stamp_of_found found⟩

/-- An override that rules out the linear mode, stamped into a buffer that is longer than a sector
and full of other bytes. -/
theorem survives_stamp_foreign :
    512 ≤ (List.replicate 600 0xee : Bytes).length ∧
    ∃ stamped,
      (stamp ⟨0xbf, 0x1234, 63, 255, 0x7c00⟩ (List.replicate 600 0xee) : Outcome DiskError Bytes) =
        .ok stamped ∧
      (ofBuffer stamped : Outcome DiskError (Option FbOverride)) =
        .ok (some ⟨0xbf, 0x1234, 63, 255, 0x7c00⟩) ∧
      stamped[0x1b8]? = some 0xee ∧ stamped.length = 600 ∧
      (stamp ⟨0xbf, 0x1234, 63, 255, 0x7c00⟩ stamped : Outcome DiskError Bytes) = .ok stamped := by
  have long : 512 ≤ (List.replicate 600 0xee : Bytes).length := by
    rw [List.length_replicate]
    decide
  obtain ⟨-, writes⟩ := (survives_stamp (ε := DiskError) (List.replicate 600 0xee)).1 long
  obtain ⟨stamped, written, found, others, length, -⟩ :=
    writes ⟨0xbf, 0x1234, 63, 255, 0x7c00⟩
  obtain ⟨-, -, same⟩ := survives_stamp (ε := DiskError) stamped
  refine ⟨long, stamped, written, found, ?_, ?_, same _ found⟩
  · rw [others 0x1b8 (by decide) (by decide), List.getElem?_replicate]
    rfl
  · rw [length, List.length_replicate]

end FirmwareDisk.FbOverride
