import FirmwareDisk.Sector
import FirmwareDisk.Firmware.Services
import FirmwareDisk.Geometry.Basic

set_option autoImplicit false

namespace FirmwareDisk

/-- The size of the staging buffer in sectors: the longest transfer, and one sector more. -/
def Staging.sectors : Nat := Geometry.longestTransfer + 1

def Staging.byteSize : Nat := Staging.sectors * sectorSize

/-- The staging buffer. -/
structure Staging where
  data : Bytes
  segment : UInt16
  length_data : data.length = Staging.byteSize

namespace Staging

/-- A buffer of zeros. -/
def empty (segment : UInt16) : Staging where
  data := Bytes.zeros byteSize
  segment
  length_data := List.length_replicate

/-- Checks that the buffer has the `length` bytes from `offset` on. -/
def checkRegion (offset length : Nat) : Except DiskError Unit :=
  if UInt64.size ≤ offset + length then .error .offsetOverflow
  else if byteSize < offset + length then
    .error (.outOfBounds (offset / sectorSize) (sectorsToHold length) sectors)
  else .ok ()

def region (staging : Staging) (offset length : Nat) : Except DiskError Bytes := do
  checkRegion offset length
  return Bytes.slice staging.data offset length

/-- The buffer with a patch written over it from `offset` on. What would stick out is dropped. -/
def fill (staging : Staging) (offset : Nat) (patch : Bytes) : Staging where
  data :=
    staging.data.take offset ++
      (patch.take (byteSize - offset) ++ staging.data.drop (offset + patch.length))
  segment := staging.segment
  length_data := by
    have length := staging.length_data
    simp only [List.length_append, List.length_take, List.length_drop, length]
    omega

/-- The buffer with a patch written over it from `offset` on, where it has room for it. -/
def put (staging : Staging) (offset : Nat) (patch : Bytes) : Except DiskError Staging := do
  checkRegion offset patch.length
  return staging.fill offset patch

def pointer {ε : Type} (staging : Staging) (offset : Nat) : Outcome ε FarPointer :=
  let address := staging.segment.toNat * 16 + offset % UInt32.size
  if UInt32.size ≤ address then .fault .overflow else .ok (.ofLinear address)

def startPointer (staging : Staging) : FarPointer :=
  .ofLinear (staging.segment.toNat * 16)

end Staging

/-- A firmware, and the staging buffer through which its transfers go. -/
structure Channel (σ : Type) where
  firmware : σ
  staging : Staging

namespace Channel

variable {σ ε α : Type}

/-- Runs a service on the first `length` bytes of the staging buffer. Whatever the service does to
them, the rest of the buffer stays as it is. -/
def lend (length : Nat) (service : Action (Lent σ) ε α) : Action (Channel σ) ε α := fun channel =>
  let (outcome, after) :=
    service { buffer := channel.staging.data.take length, state := channel.firmware }
  (outcome,
    { firmware := after.state
      staging := channel.staging.fill 0 (after.buffer.take length) })

def ask (service : Action σ ε α) : Action (Channel σ) ε α :=
  Action.onPart firmware (fun firmware channel => { channel with firmware }) service

/-- Copies bytes to the start of the staging buffer, where it has room for them. -/
def stage (bytes : Bytes) : Action (Channel σ) DiskError Unit := fun channel =>
  match channel.staging.put 0 bytes with
  | .ok staging => (.ok (), { channel with staging })
  | .error cause => (.error cause, channel)

def staged (length : Nat) : Action (Channel σ) ε Bytes :=
  Action.look fun channel => channel.staging.data.take length

end Channel

end FirmwareDisk
