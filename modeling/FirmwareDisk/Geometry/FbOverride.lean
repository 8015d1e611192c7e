import FirmwareDisk.Bytes

set_option autoImplicit false

namespace FirmwareDisk

/-- A drive geometry that a boot sector may carry. It counts only where the mark stands behind its
fields and the sector ends in the boot signature. -/
structure FbOverride where
  /-- The longest transfer, in the low seven bits; the eighth one rules out the linear mode. -/
  cap : UInt8
  lba : UInt16
  sectorsPerTrack : UInt8
  heads : UInt8
  bootBase : UInt16
deriving DecidableEq, Repr

namespace FbOverride

def start : Nat := 0x1ad

def markStart : Nat := 0x1b4

def mark : Bytes := [0x46, 0x42, 0x42, 0x46]

def signatureStart : Nat := 0x1fe

def signature : Nat := 0xaa55

def sectorBytes : Nat := 512

def hasMark (sector : Bytes) : Bool :=
  Bytes.slice sector markStart 4 = mark

def lastWord (sector : Bytes) : Nat :=
  Bytes.word 2 sector signatureStart

/-- The fields of a sector, whatever it is marked with. -/
def fieldsOf (sector : Bytes) : FbOverride where
  cap := Bytes.byte sector 0x1ad
  lba := Bytes.word16 sector 0x1ae
  sectorsPerTrack := Bytes.byte sector 0x1b0
  heads := Bytes.byte sector 0x1b1
  bootBase := Bytes.word16 sector 0x1b2

def ofSector? (sector : Bytes) : Option FbOverride :=
  if hasMark sector ∧ lastWord sector = signature then some (fieldsOf sector) else none

/-- The override in a buffer of any length. The mark is looked for first, so a buffer without it
need not reach to the end of a sector. -/
def ofBuffer {ε : Type} (buffer : Bytes) : Outcome ε (Option FbOverride) :=
  if buffer.length < markStart + mark.length then .fault .outsideBuffer
  else if hasMark buffer ∧ buffer.length < sectorBytes then .fault .outsideBuffer
  else .ok (ofSector? buffer)

def toBytes (override : FbOverride) : Bytes :=
  [override.cap] ++ Bytes.ofNat 2 override.lba.toNat ++
    [override.sectorsPerTrack, override.heads] ++ Bytes.ofNat 2 override.bootBase.toNat ++ mark

/-- The sector with the override, its mark and the boot signature written into it. -/
def writeInto (override : FbOverride) (sector : Bytes) : Bytes :=
  Bytes.overlay (Bytes.overlay sector start override.toBytes) signatureStart
    (Bytes.ofNat 2 signature)

/-- Stamps the override into a buffer, which has to reach to the end of a sector. -/
def stamp {ε : Type} (override : FbOverride) (buffer : Bytes) : Outcome ε Bytes :=
  if buffer.length < sectorBytes then .fault .outsideBuffer else .ok (override.writeInto buffer)

def chsOnlyBit : Nat := 0x80

def chsOnly (override : FbOverride) : Bool :=
  chsOnlyBit ≤ override.cap.toNat

def transferCap (override : FbOverride) : Nat :=
  max 1 (override.cap.toNat % chsOnlyBit)

end FbOverride

end FirmwareDisk
