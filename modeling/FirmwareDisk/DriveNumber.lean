import FirmwareDisk.Error
import FirmwareDisk.Text.Decimal

set_option autoImplicit false

namespace FirmwareDisk

abbrev DriveNumber := UInt8

namespace DriveNumber

def firstFixed : Nat := 0x80

def isFixed (drive : DriveNumber) : Bool :=
  firstFixed ≤ drive.toNat

def name (drive : DriveNumber) : String :=
  if isFixed drive then s!"hd{drive.toNat - firstFixed}" else s!"fd{drive.toNat}"

/-- The number after the class letters of a name: decimal digits, of a value below 0x80. -/
def index? (digits : List Char) : Option Nat :=
  (Decimal.natural? digits).filter (· < firstFixed)

/-- The number of a name, if it is one. -/
def ofName? (name : String) : Option DriveNumber :=
  match name.toList with
  | 'h' :: 'd' :: digits => (index? digits).map fun index => UInt8.ofNat (firstFixed + index)
  | 'f' :: 'd' :: digits => (index? digits).map UInt8.ofNat
  | _ => none

/-- The number of a name, which has to be one. -/
def ofName (name : String) : Except DiskError DriveNumber :=
  match ofName? name with
  | some drive => .ok drive
  | none => .error (.unknownDevice name)

end DriveNumber

end FirmwareDisk
