import FirmwareDisk.Bytes
import FirmwareDisk.Firmware.Address

set_option autoImplicit false

namespace FirmwareDisk

/-- What an extended transfer moves. -/
structure DiskAddressPacket where
  blocks : UInt16
  buffer : FarPointer
  block : UInt64
deriving DecidableEq, Repr

namespace DiskAddressPacket

def byteSize : Nat := 16

def encode (packet : DiskAddressPacket) : Bytes :=
  [UInt8.ofNat byteSize, 0] ++ Bytes.ofNat 2 packet.blocks.toNat ++
    Bytes.ofNat 4 packet.buffer.toDword.toNat ++ Bytes.ofNat 8 packet.block.toNat

/-- The packet that some bytes hold, if they begin with its size. -/
def decode? (raw : Bytes) : Option DiskAddressPacket :=
  if (Bytes.byte raw 0).toNat = byteSize then
    some {
      blocks := Bytes.word16 raw 2
      buffer := .ofDword (Bytes.word32 raw 4)
      block := Bytes.word64 raw 8 }
  else none

end DiskAddressPacket

/-- What the firmware reports of a drive through its extended services. -/
structure DriveParameters where
  flags : UInt16
  cylinders : UInt32
  heads : UInt32
  sectors : UInt32
  totalSectors : UInt64
  bytesPerSector : UInt16
deriving DecidableEq, Repr

namespace DriveParameters

def byteSize : Nat := 66

/-- The cylinder count that says "too large to be counted in cylinders". -/
def uncountedCylinders : UInt32 := 65535

/-- Where the fields begin. The two bytes before them are the caller's. -/
def start : Nat := 2

/-- The fields of a block. -/
def ofBytes (raw : Bytes) : DriveParameters where
  flags := Bytes.word16 raw 2
  cylinders := Bytes.word32 raw 4
  heads := Bytes.word32 raw 8
  sectors := Bytes.word32 raw 12
  totalSectors := Bytes.word64 raw 16
  bytesPerSector := Bytes.word16 raw 24

/-- The fields, one after the other. -/
def toBytes (parameters : DriveParameters) : Bytes :=
  Bytes.ofNat 2 parameters.flags.toNat ++ Bytes.ofNat 4 parameters.cylinders.toNat ++
    Bytes.ofNat 4 parameters.heads.toNat ++ Bytes.ofNat 4 parameters.sectors.toNat ++
    Bytes.ofNat 8 parameters.totalSectors.toNat ++ Bytes.ofNat 2 parameters.bytesPerSector.toNat

def writeInto (parameters : DriveParameters) (raw : Bytes) : Bytes :=
  Bytes.overlay raw start parameters.toBytes

end DriveParameters

/-- What the firmware reports of an optical drive that the machine was started from. -/
structure OpticalPacket where
  mediaType : UInt8
  driveNumber : UInt8
  controllerNumber : UInt8
  imageBlock : UInt32
deriving DecidableEq, Repr

namespace OpticalPacket

def byteSize : Nat := 19

def start : Nat := 1

/-- The packet to be filled by the firmware. Its media type is one that says "not optical", so that
a firmware which fills in nothing is not believed. -/
def request : Bytes :=
  [UInt8.ofNat byteSize, 0xff] ++ Bytes.zeros (byteSize - 2)

/-- The fields of a packet. -/
def ofBytes (raw : Bytes) : OpticalPacket where
  mediaType := Bytes.byte raw 1
  driveNumber := Bytes.byte raw 2
  controllerNumber := Bytes.byte raw 3
  imageBlock := Bytes.word32 raw 4

def toBytes (packet : OpticalPacket) : Bytes :=
  [packet.mediaType, packet.driveNumber, packet.controllerNumber] ++
    Bytes.ofNat 4 packet.imageBlock.toNat

def writeInto (packet : OpticalPacket) (raw : Bytes) : Bytes :=
  Bytes.overlay raw start packet.toBytes

/-- Whether the drive shows its own sectors, instead of emulating a disk. -/
def isPlainOptical (packet : OpticalPacket) : Bool :=
  packet.mediaType &&& 0x0f == 0 && 0x80 ≤ packet.driveNumber

end OpticalPacket

end FirmwareDisk
