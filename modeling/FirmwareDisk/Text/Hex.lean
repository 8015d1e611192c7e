import FirmwareDisk.Bytes

set_option autoImplicit false

namespace FirmwareDisk.Hex

def digit (value : Nat) : Char :=
  (Nat.toDigits 16 (value % 16)).headD '0'

def ofByte (byte : UInt8) : String :=
  String.ofList [digit (byte.toNat / 16), digit byte.toNat]

def ofBytes (bytes : Bytes) : String :=
  String.join (bytes.map ofByte)

/-- The value of a hexadecimal digit in either case. -/
def value? (digit : Char) : Option Nat :=
  if '0' ≤ digit ∧ digit ≤ '9' then some (digit.toNat - '0'.toNat)
  else if 'a' ≤ digit ∧ digit ≤ 'f' then some (digit.toNat - 'a'.toNat + 10)
  else if 'A' ≤ digit ∧ digit ≤ 'F' then some (digit.toNat - 'A'.toNat + 10)
  else none

/-- The bytes that pairs of digits write. -/
def toBytes? : List Char → Option Bytes
  | [] => some []
  | [_] => none
  | high :: low :: rest => do
    return UInt8.ofNat ((← value? high) * 16 + (← value? low)) :: (← toBytes? rest)

end FirmwareDisk.Hex
