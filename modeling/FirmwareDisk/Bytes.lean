import FirmwareDisk.Outcome

set_option autoImplicit false

namespace FirmwareDisk

abbrev Bytes := List UInt8

namespace Bytes

def zeros (length : Nat) : Bytes :=
  List.replicate length 0

/-- The `length` bytes from `offset` on, as far as the buffer has them. -/
def slice (bytes : Bytes) (offset length : Nat) : Bytes :=
  (bytes.drop offset).take length

/-- The buffer with `patch` written over it from `offset` on; what would stick out is dropped. -/
def overlay (bytes : Bytes) (offset : Nat) (patch : Bytes) : Bytes :=
  bytes.take offset ++ (patch.take (bytes.length - offset) ++ bytes.drop (offset + patch.length))

@[simp] theorem length_overlay (bytes : Bytes) (offset : Nat) (patch : Bytes) :
    (overlay bytes offset patch).length = bytes.length := by
  simp only [overlay, List.length_append, List.length_take, List.length_drop]
  omega

/-- The first `count` pieces of `size` bytes each. The last one may be shorter. -/
def pieces (size : Nat) : Nat → Bytes → List Bytes
  | 0, _ => []
  | count + 1, bytes => bytes.take size :: pieces size count (bytes.drop size)

/-- The `width` low bytes of a number, least significant first. -/
def ofNat : Nat → Nat → Bytes
  | 0, _ => []
  | width + 1, value => UInt8.ofNat value :: ofNat width (value / 256)

def toNat : Bytes → Nat
  | [] => 0
  | byte :: rest => byte.toNat + 256 * toNat rest

@[simp] theorem length_ofNat (width value : Nat) : (ofNat width value).length = width := by
  induction width generalizing value with
  | zero => rfl
  | succ width ih => simp only [ofNat, List.length_cons, ih]

def word (width : Nat) (bytes : Bytes) (offset : Nat) : Nat :=
  toNat (slice bytes offset width)

def byte (bytes : Bytes) (offset : Nat) : UInt8 :=
  bytes.getD offset 0

def word16 (bytes : Bytes) (offset : Nat) : UInt16 :=
  UInt16.ofNat (word 2 bytes offset)

def word32 (bytes : Bytes) (offset : Nat) : UInt32 :=
  UInt32.ofNat (word 4 bytes offset)

def word64 (bytes : Bytes) (offset : Nat) : UInt64 :=
  UInt64.ofNat (word 8 bytes offset)

/-- The number in the `width` bytes at `offset`, which have to be there. -/
def wordWithin {ε : Type} (width : Nat) (bytes : Bytes) (offset : Nat) : Outcome ε Nat :=
  if offset + width ≤ bytes.length then .ok (word width bytes offset) else .fault .outsideBuffer

/-- The buffer with a number in the `width` bytes at `offset`, which have to be there. -/
def putWordWithin {ε : Type} (width : Nat) (bytes : Bytes) (offset value : Nat) :
    Outcome ε Bytes :=
  if offset + width ≤ bytes.length then .ok (overlay bytes offset (ofNat width value))
  else .fault .outsideBuffer

end Bytes

end FirmwareDisk
