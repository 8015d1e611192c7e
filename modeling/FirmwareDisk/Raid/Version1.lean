import FirmwareDisk.Raid.Member
import FirmwareDisk.Text.Utf8

set_option autoImplicit false

namespace FirmwareDisk.Raid

/-- The leading fields of a version 1.x superblock. -/
structure Superblock1 where
  magic : Nat
  majorVersion : Nat
  featureMap : Nat
  setUuid : Bytes
  setName : Bytes
  /-- When the array was created: seconds in the low 40 bits, microseconds above them. -/
  creationTime : Nat
  level : Int
  layout : Nat
  size : Nat
  chunkSize : Nat
  raidDisks : Nat
  dataOffset : Nat
  dataSize : Nat
  superOffset : Nat
  deviceNumber : Nat
deriving DecidableEq

namespace Superblock1

def headerSize : Nat := 256

/-- The fields of a header, or none if it is too short. -/
def ofBytes? (raw : Bytes) : Option Superblock1 :=
  if raw.length < headerSize then none
  else some {
    magic := Bytes.word 4 raw 0
    majorVersion := Bytes.word 4 raw 4
    featureMap := Bytes.word 4 raw 8
    setUuid := Bytes.slice raw 16 16
    setName := Bytes.slice raw 32 32
    creationTime := Bytes.word 8 raw 64
    level := signed (Bytes.word 4 raw 72)
    layout := Bytes.word 4 raw 76
    size := Bytes.word 8 raw 80
    chunkSize := Bytes.word 4 raw 88
    raidDisks := Bytes.word 4 raw 92
    dataOffset := Bytes.word 8 raw 128
    dataSize := Bytes.word 8 raw 136
    superOffset := Bytes.word 8 raw 144
    deviceNumber := Bytes.word 4 raw 160 }

/-- Whether this is a superblock that belongs at `sector`. -/
def BelongsAt (superblock : Superblock1) (sector : Nat) : Prop :=
  superblock.magic = Raid.magic ∧ superblock.majorVersion = 1 ∧ superblock.superOffset = sector

instance (superblock : Superblock1) (sector : Nat) : Decidable (superblock.BelongsAt sector) :=
  inferInstanceAs (Decidable (_ ∧ _ ∧ _))

def creationSecond (superblock : Superblock1) : Nat :=
  superblock.creationTime % 0x10000000000

/-- The name of the array up to its first zero byte, or none if it is empty. -/
def name? (superblock : Superblock1) : Option String :=
  let name := superblock.setName.takeWhile (· != 0)
  if name.isEmpty then none else some (Utf8.decode name)

/-- What the superblock says about the array. -/
def member (superblock : Superblock1) : ArrayMember where
  version := .v1
  arrayNumber := 0
  level := reportedLevel superblock.level
  layout := superblock.layout
  members := superblock.raidDisks
  memberIndex := superblock.deviceNumber
  perMemberSize := superblock.dataSize
  dataOffset := superblock.dataOffset
  chunkSize := superblock.chunkSize
  uuid := superblock.setUuid
  name := superblock.name?

end Superblock1

end FirmwareDisk.Raid
