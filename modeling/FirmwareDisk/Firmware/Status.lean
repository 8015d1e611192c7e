import FirmwareDisk.Text.Hex

set_option autoImplicit false

namespace FirmwareDisk

/-- A status code. -/
structure Status where
  code : UInt8
deriving DecidableEq, Repr

namespace Status

def invalidCommand : Status := ⟨0x01⟩

def writeProtected : Status := ⟨0x03⟩

def sectorNotFound : Status := ⟨0x04⟩

def transferTooLong : Status := ⟨0x09⟩

def timeout : Status := ⟨0x80⟩

def notReady : Status := ⟨0xaa⟩

def message (status : Status) : String :=
  s!"int 13h status 0x{Hex.ofByte status.code}"

end Status

end FirmwareDisk
