import FirmwareDisk.Outcome

set_option autoImplicit false

namespace FirmwareDisk

/-- Which way a transfer goes. -/
inductive Direction where
  | read
  | write
deriving DecidableEq, Repr

def Direction.chsFunction : Direction → Nat
  | .read => 0x02
  | .write => 0x03

def Direction.blockFunction : Direction → Nat
  | .read => 0x42
  | .write => 0x43

/-- A cylinder, a head, and a sector of the track, which is counted from one. -/
structure Chs where
  cylinder : UInt16
  head : UInt8
  sector : UInt8
deriving DecidableEq, Repr

namespace Chs

/-- The linear number of an address under a geometry, if the track has such a sector and the
cylinder such a head. -/
def linear? (address : Chs) (heads sectorsPerTrack : Nat) : Option Nat :=
  if address.sector = 0 ∨ sectorsPerTrack < address.sector.toNat ∨ heads ≤ address.head.toNat then
    none
  else
    some ((address.cylinder.toNat * heads + address.head.toNat) * sectorsPerTrack +
      (address.sector.toNat - 1))

/-- The linear number of an address, computed in 64 bits. The sector is added before the one is
taken off, so the greatest 64-bit number is out of reach as well. -/
def linear64 {ε : Type} (address : Chs) (heads sectorsPerTrack : Nat) : Outcome ε (Option Nat) :=
  match address.linear? heads sectorsPerTrack with
  | none => .ok none
  | some sector => if UInt64.size ≤ sector + 1 then .fault .overflow else .ok (some sector)

end Chs

/-- A pointer of the processor's real mode: sixteen times the segment, plus the offset. -/
structure FarPointer where
  segment : UInt16
  offset : UInt16
deriving DecidableEq, Repr

namespace FarPointer

/-- The pointer to a linear address, with the smallest offset. Bits that a segment cannot hold are
lost. -/
def ofLinear (address : Nat) : FarPointer where
  segment := UInt16.ofNat (address / 16)
  offset := UInt16.ofNat (address % 16)

def linear (pointer : FarPointer) : Nat :=
  pointer.segment.toNat * 16 + pointer.offset.toNat

def toDword (pointer : FarPointer) : UInt32 :=
  UInt32.ofNat (pointer.segment.toNat * 0x10000 + pointer.offset.toNat)

def ofDword (dword : UInt32) : FarPointer where
  segment := UInt16.ofNat (dword.toNat / 0x10000)
  offset := UInt16.ofNat dword.toNat

end FarPointer

end FirmwareDisk
