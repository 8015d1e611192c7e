import Mathlib.Algebra.Group.Nat.Defs
import FirmwareDisk.Bytes

set_option autoImplicit false

namespace FirmwareDisk

namespace Bytes

/-- Decoding gives a number back, up to the bits for which there was no room. -/
theorem toNat_ofNat (width value : Nat) : toNat (ofNat width value) = value % 256 ^ width := by
  induction width generalizing value with
  | zero => simp only [ofNat, toNat, Nat.pow_zero, Nat.mod_one]
  | succ width ih =>
    have low : (UInt8.ofNat value).toNat = value % 256 := UInt8.toNat_ofNat'
    rw [ofNat, toNat, ih, low, Nat.pow_succ, Nat.mul_comm (256 ^ width), Nat.mod_mul]

theorem toNat_ofNat_of_lt {width value : Nat} (fits : value < 256 ^ width) :
    toNat (ofNat width value) = value := by
  rw [toNat_ofNat, Nat.mod_eq_of_lt fits]

/-- A number of known width goes back to its bytes. -/
theorem ofNat_toNat {width : Nat} {bytes : Bytes} (length : bytes.length = width) :
    ofNat width (toNat bytes) = bytes := by
  induction width generalizing bytes with
  | zero => rw [List.length_eq_zero_iff.mp length, ofNat]
  | succ width ih =>
    obtain ⟨byte, rest, rfl⟩ := List.exists_cons_of_length_eq_add_one length
    have low : byte.toNat < 256 := byte.toNat_lt
    have back : UInt8.ofNat (toNat (byte :: rest)) = byte := by
      apply UInt8.toNat_inj.mp
      rw [UInt8.toNat_ofNat', toNat]
      omega
    have others : toNat (byte :: rest) / 256 = toNat rest := by
      rw [toNat]
      omega
    rw [ofNat, back, others, ih (Nat.succ.inj length)]

theorem ofNat_mod (width value : Nat) : ofNat width (value % 256 ^ width) = ofNat width value := by
  rw [← toNat_ofNat, ofNat_toNat (length_ofNat width value)]

theorem slice_append {front middle back : Bytes} {offset length : Nat}
    (before : front.length = offset) (within : middle.length = length) :
    slice (front ++ (middle ++ back)) offset length = middle := by
  subst before
  subst within
  rw [slice, List.drop_left, List.take_left]

theorem slice_append_slice (bytes : Bytes) (offset front back : Nat) :
    slice bytes offset front ++ slice bytes (offset + front) back =
      slice bytes offset (front + back) := by
  rw [slice, slice, slice, List.take_add, List.drop_drop]

theorem slice_slice (bytes : Bytes) (offset : Nat) {place length whole : Nat}
    (inside : place + length ≤ whole) :
    slice (slice bytes offset whole) place length = slice bytes (offset + place) length := by
  rw [slice, slice, slice, List.drop_take, List.take_take, List.drop_drop,
    Nat.min_eq_left (by omega)]

theorem slice_one {bytes : Bytes} {index : Nat} (inside : index < bytes.length) :
    slice bytes index 1 = [byte bytes index] := by
  rw [byte, slice, List.take_one, List.head?_drop, List.getD_eq_getElem?_getD,
    List.getElem?_eq_getElem inside, Option.getD_some, Option.toList_some]

theorem getElem?_slice {bytes : Bytes} {offset length index : Nat} (inside : index < length) :
    (slice bytes offset length)[index]? = bytes[offset + index]? := by
  rw [slice, List.getElem?_take_of_lt inside, List.getElem?_drop]

theorem inside_of_length_slice {bytes : Bytes} {offset length : Nat} (positive : 0 < length)
    (full : (slice bytes offset length).length = length) : offset + length ≤ bytes.length := by
  rw [slice, List.length_take, List.length_drop] at full
  omega

/-- A field holds the number that was written into it, if the number fits. -/
theorem word_of_slice {bytes : Bytes} {offset width value : Nat}
    (field : slice bytes offset width = ofNat width value) (fits : value < 256 ^ width) :
    word width bytes offset = value := by
  rw [word, field, toNat_ofNat_of_lt fits]

section Blocks

variable {bytes block : Bytes} {offset length : Nat}

theorem slice_of_block (held : slice bytes offset length = block) (place : Nat) {width : Nat}
    (inside : place + width ≤ length) :
    slice bytes (offset + place) width = slice block place width := by
  rw [← held, slice_slice bytes offset inside]

theorem byte_of_block (held : slice bytes offset length = block) (place : Nat)
    (inside : place < length) : byte bytes (offset + place) = byte block place := by
  rw [byte, byte, List.getD_eq_getElem?_getD, List.getD_eq_getElem?_getD, ← held,
    getElem?_slice inside]

theorem word_of_block (held : slice bytes offset length = block) (place : Nat) {width value : Nat}
    (inside : place + width ≤ length) (field : slice block place width = ofNat width value)
    (fits : value < 256 ^ width) : word width bytes (offset + place) = value :=
  word_of_slice ((slice_of_block held place inside).trans field) fits

end Blocks

theorem ofNat_word {width offset : Nat} {bytes : Bytes} (inside : offset + width ≤ bytes.length) :
    ofNat width (word width bytes offset) = slice bytes offset width := by
  refine ofNat_toNat ?_
  rw [slice, List.length_take, List.length_drop]
  omega

theorem ofNat_word16 {offset : Nat} {bytes : Bytes} (inside : offset + 2 ≤ bytes.length) :
    ofNat 2 (word16 bytes offset).toNat = slice bytes offset 2 := by
  rw [word16, UInt16.toNat_ofNat']
  exact (ofNat_mod 2 _).trans (ofNat_word inside)

theorem ofNat_word32 {offset : Nat} {bytes : Bytes} (inside : offset + 4 ≤ bytes.length) :
    ofNat 4 (word32 bytes offset).toNat = slice bytes offset 4 := by
  rw [word32, UInt32.toNat_ofNat']
  exact (ofNat_mod 4 _).trans (ofNat_word inside)

theorem ofNat_word64 {offset : Nat} {bytes : Bytes} (inside : offset + 8 ≤ bytes.length) :
    ofNat 8 (word64 bytes offset).toNat = slice bytes offset 8 := by
  rw [word64, UInt64.toNat_ofNat']
  exact (ofNat_mod 8 _).trans (ofNat_word inside)

theorem overlay_all {bytes patch : Bytes} (same : patch.length = bytes.length) :
    overlay bytes 0 patch = patch := by
  simp [overlay, ← same]

section Patches

variable {bytes patch : Bytes} {offset : Nat}

/-- A patch that fits stands between the bytes in front of it and those behind it. -/
theorem overlay_of_fits (inside : offset + patch.length ≤ bytes.length) :
    overlay bytes offset patch =
      (bytes.take offset ++ patch) ++ bytes.drop (offset + patch.length) ∧
    (bytes.take offset ++ patch).length = offset + patch.length := by
  have whole : patch.take (bytes.length - offset) = patch := List.take_of_length_le (by omega)
  refine ⟨by rw [overlay, whole, List.append_assoc], ?_⟩
  rw [List.length_append, List.length_take]
  omega

theorem take_overlay (inside : offset + patch.length ≤ bytes.length) :
    (overlay bytes offset patch).take (offset + patch.length) = bytes.take offset ++ patch := by
  obtain ⟨parts, front⟩ := overlay_of_fits inside
  rw [parts, List.take_left' front]

theorem drop_overlay (inside : offset + patch.length ≤ bytes.length) :
    (overlay bytes offset patch).drop (offset + patch.length) =
      bytes.drop (offset + patch.length) := by
  obtain ⟨parts, front⟩ := overlay_of_fits inside
  rw [parts, List.drop_left' front]

/-- Two patches side by side are one. -/
theorem overlay_overlay {next : Bytes} {place : Nat} (adjacent : place = offset + patch.length)
    (inside : offset + (patch ++ next).length ≤ bytes.length) :
    overlay (overlay bytes offset patch) place next = overlay bytes offset (patch ++ next) := by
  subst adjacent
  rw [List.length_append] at inside
  have first : offset + patch.length ≤ bytes.length := by omega
  have second : offset + patch.length + next.length ≤ (overlay bytes offset patch).length := by
    rw [length_overlay]
    omega
  have both : offset + (patch ++ next).length ≤ bytes.length := by
    rw [List.length_append]
    exact inside
  rw [(overlay_of_fits second).1, take_overlay first, (overlay_of_fits both).1,
    ← List.drop_drop, drop_overlay first, List.drop_drop, List.length_append, Nat.add_assoc]
  simp only [List.append_assoc]

theorem slice_overlay (inside : offset + patch.length ≤ bytes.length) :
    slice (overlay bytes offset patch) offset patch.length = patch := by
  have front : (bytes.take offset).length = offset := by
    rw [List.length_take]
    omega
  rw [(overlay_of_fits inside).1, List.append_assoc, slice_append front rfl]

end Patches

theorem overlay_slice (bytes : Bytes) (offset length : Nat) :
    overlay bytes offset (slice bytes offset length) = bytes := by
  rw [overlay, slice, List.take_take, List.length_take, List.length_drop]
  have held : bytes.take offset ++ (bytes.drop offset).take (min length (bytes.length - offset)) =
      bytes.take (offset + min length (bytes.length - offset)) := by
    rw [List.take_add]
  rw [Nat.min_comm (bytes.length - offset), ← List.append_assoc, held, List.take_append_drop]

/-- A patch leaves the bytes in front of it and those behind it as they are. -/
theorem getElem?_overlay_outside {bytes patch : Bytes} {offset index : Nat}
    (outside : index < offset ∨ offset + patch.length ≤ index) :
    (overlay bytes offset patch)[index]? = bytes[index]? := by
  rcases Nat.lt_or_ge index bytes.length with inside | beyond
  · rw [overlay]
    rcases outside with before | behind
    · rw [List.getElem?_append_left (by rw [List.length_take]; omega),
        List.getElem?_take_of_lt before]
    · rw [← List.append_assoc, List.getElem?_append_right, List.getElem?_drop]
      · congr 1
        simp only [List.length_append, List.length_take]
        omega
      · simp only [List.length_append, List.length_take]
        omega
  · rw [List.getElem?_eq_none beyond, List.getElem?_eq_none (by rwa [length_overlay])]

/-- A patch leaves a slice as it is that lies in front of it or behind it. -/
theorem slice_overlay_outside {bytes patch : Bytes} {offset place length : Nat}
    (apart : place + length ≤ offset ∨ offset + patch.length ≤ place) :
    slice (overlay bytes offset patch) place length = slice bytes place length := by
  apply List.ext_getElem?
  intro index
  by_cases inside : index < length
  · rw [getElem?_slice inside, getElem?_slice inside]
    apply getElem?_overlay_outside
    omega
  · have short : ∀ bytes : Bytes, (slice bytes place length).length ≤ index := by
      intro bytes
      rw [slice, List.length_take]
      omega
    rw [List.getElem?_eq_none (short _), List.getElem?_eq_none (short _)]

end Bytes

end FirmwareDisk
