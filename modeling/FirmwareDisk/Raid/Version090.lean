import FirmwareDisk.Raid.Member

set_option autoImplicit false

namespace FirmwareDisk.Raid

/-- The fields of a version 0.90 superblock that detection needs. -/
structure Superblock090 where
  magic : Nat
  majorVersion : Nat
  minorVersion : Nat
  /-- The four words of the identifier, which are not neighbours on disk. -/
  setUuid : List Nat
  level : Int
  size : Nat
  raidDisks : Nat
  arrayNumber : Nat
  layout : Nat
  chunkBytes : Nat
  thisDisk : Nat
deriving DecidableEq

namespace Superblock090

def byteSize : Nat := 4096

def reservedSectors : Nat := 128

/-- The fields of a superblock, or none if it is too short. -/
def ofBytes? (raw : Bytes) : Option Superblock090 :=
  if raw.length < byteSize then none
  else some {
    magic := Bytes.word 4 raw 0
    majorVersion := Bytes.word 4 raw 4
    minorVersion := Bytes.word 4 raw 8
    setUuid := [20, 52, 56, 60].map (Bytes.word 4 raw)
    level := signed (Bytes.word 4 raw 28)
    size := Bytes.word 4 raw 32
    raidDisks := Bytes.word 4 raw 40
    arrayNumber := Bytes.word 4 raw 44
    layout := Bytes.word 4 raw 256
    chunkBytes := Bytes.word 4 raw 260
    thisDisk := Bytes.word 4 raw 3968 }

def uuid (superblock : Superblock090) : Bytes :=
  superblock.setUuid.flatMap (Bytes.ofNat 4)

/-- What a superblock read from `sector` says about the array, at the given level. Without a size of
its own, a member is taken to reach up to its superblock. -/
def member (superblock : Superblock090) (sector : Nat) (level : Int) : ArrayMember where
  version := .v090
  arrayNumber := superblock.arrayNumber
  level
  layout := superblock.layout
  members := superblock.raidDisks
  memberIndex := superblock.thisDisk
  perMemberSize := if superblock.size = 0 then sector else superblock.size * 2
  dataOffset := 0
  chunkSize := superblock.chunkBytes / 512
  uuid := superblock.uuid
  name := none

end Superblock090

end FirmwareDisk.Raid
