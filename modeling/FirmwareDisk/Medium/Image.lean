import FirmwareDisk.BlockDevice

/-!
Disk images: files that are read as disks and never written. A file whose length is no whole number
of sectors reads as if it went on with zeros.

The host that keeps the files may give fewer bytes than it is asked for, or be interrupted, so a
read asks again until it has all of them or the file ends. It may also fail, and then what it has
given so far stays in the buffer.
-/

set_option autoImplicit false

namespace FirmwareDisk

/-- Where the host of a file fails, and the cause that it tells. -/
structure HostFaults where
  seek : Nat → Option String := fun _ => none
  /-- Offsets whose byte it cannot read. At the end of a file it may fail to find that end. -/
  read : Nat → Option String := fun _ => none

structure ImageFile where
  path : String
  byteLength : Nat
  /-- The byte at an offset. Offsets beyond the length are never asked for. -/
  byteAt : Nat → UInt8
  faults : HostFaults := {}

/-- In what a host falls short of a request for bytes that it can read. -/
inductive HostReply where
  | interrupted
  /-- It gives a byte, and at most so many more. -/
  | gives (more : Nat)
deriving DecidableEq, Repr

namespace ImageFile

def zeros (path : String) (byteLength : Nat) : ImageFile where
  path
  byteLength
  byteAt := fun _ => 0

def ofByteArray (path : String) (contents : ByteArray) : ImageFile where
  path
  byteLength := contents.size
  byteAt := fun offset => if h : offset < contents.size then contents[offset] else 0

/-- The file with some bytes written over it, its length unchanged. -/
def patched (file : ImageFile) (start : Nat) (patch : ByteArray) : ImageFile :=
  { file with
    byteAt := fun offset =>
      if h : start ≤ offset ∧ offset - start < patch.size then patch[offset - start]
      else file.byteAt offset }

/-- The size in sectors, the last of which the file may fill only in part. -/
def totalSectors (file : ImageFile) : Nat :=
  sectorsToHold file.byteLength

/-- Up to `length` bytes from `offset` on, fewer where the file ends. -/
def bytesFrom (file : ImageFile) (offset length : Nat) : Bytes :=
  (List.range (min length (file.byteLength - offset))).map fun index => file.byteAt (offset + index)

/-- How many bytes from `offset` on the host gives before it fails, if it does so within `length`
bytes, and the cause that it tells. -/
def failure? (file : ImageFile) (offset length : Nat) : Option (Nat × String) :=
  (List.range (min length (file.byteLength - offset + 1))).findSome? fun given =>
    (file.faults.read (offset + given)).map fun cause => (given, cause)

/-- What the host gives when it is asked once for the `length` bytes from `offset` on: those that
the file has before the first one that it cannot read, unless that one is the first of all. -/
def ask (file : ImageFile) (offset length : Nat) : Except String Bytes :=
  match file.failure? offset length with
  | none => .ok (file.bytesFrom offset length)
  | some (0, cause) => .error cause
  | some (given, _) => .ok (file.bytesFrom offset given)

/-- Asks the host for the bytes from `offset` on, behind the first `filled` bytes of a buffer, until
the buffer is full or the host gives nothing. After these replies the host gives all that it can
read. Returns how much of the buffer was filled, unless the host failed, and the buffer. -/
def load (file : ImageFile) (offset : Nat) :
    List HostReply → Nat → Bytes → Except String Nat × Bytes
  | [], filled, buffer =>
    match file.failure? (offset + filled) (buffer.length - filled) with
    | none =>
      let given := file.bytesFrom (offset + filled) (buffer.length - filled)
      (.ok (filled + given.length), Bytes.overlay buffer filled given)
    | some (given, cause) =>
      (.error cause, Bytes.overlay buffer filled (file.bytesFrom (offset + filled) given))
  | .interrupted :: replies, filled, buffer =>
    if buffer.length ≤ filled then (.ok filled, buffer) else load file offset replies filled buffer
  | .gives more :: replies, filled, buffer =>
    match file.ask (offset + filled) (min (more + 1) (buffer.length - filled)) with
    | .error cause => (.error cause, buffer)
    | .ok given =>
      if given.isEmpty then (.ok filled, buffer)
      else load file offset replies (filled + given.length) (Bytes.overlay buffer filled given)

def hostError (file : ImageFile) (cause : String) : DiskError :=
  .hostFailed s!"{file.path}: {cause}"

/-- Fills the buffer with the sectors from a given one on, from a host that replies like this. -/
def readVia (replies : List HostReply) (sector : Nat) : Action (Lent ImageFile) DiskError Unit :=
  fun lent =>
    let file := lent.state
    let length := lent.buffer.length
    let offset := sector * sectorSize
    match requestedSectors sector length file.totalSectors with
    | .error cause => (.error cause, lent)
    | .ok _ =>
      if UInt64.size ≤ offset then (.error .offsetOverflow, lent)
      else match file.faults.seek offset with
        | some cause => (.error (file.hostError cause), lent)
        | none =>
          match file.load offset replies 0 lent.buffer with
          | (.ok filled, buffer) =>
            (.ok (), { lent with buffer := buffer.take filled ++ Bytes.zeros (length - filled) })
          | (.error cause, buffer) => (.error (file.hostError cause), { lent with buffer })

instance : BlockDevice ImageFile where
  totalSectors := totalSectors
  read := readVia []
  write _ _ := fun file => (.error (.readOnly file.path), file)

end ImageFile

end FirmwareDisk
