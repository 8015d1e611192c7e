import FirmwareDisk.Bytes

set_option autoImplicit false

namespace FirmwareDisk.Utf8

def replacement : Char := '\ufffd'

/-- A character of which some bytes are still to come: how many, the range in which the next one has
to lie, and the value of those read. -/
structure Pending where
  /-- How many bytes are still to come, less the next one. -/
  later : Nat
  least : Nat
  greatest : Nat
  value : Nat

/-- The characters that a byte completes, and the one that is left incomplete. -/
abbrev Step := List Char × Option Pending

/-- What a byte between two characters does. The ranges leave out the spellings that are longer than
they need to be, the surrogates, and all beyond U+10FFFF. -/
def begin (byte : Nat) : Step :=
  if byte < 0x80 then ([Char.ofNat byte], none)
  else if byte < 0xc2 then ([replacement], none)
  else if byte < 0xe0 then ([], some ⟨0, 0x80, 0xbf, byte - 0xc0⟩)
  else if byte = 0xe0 then ([], some ⟨1, 0xa0, 0xbf, 0⟩)
  else if byte = 0xed then ([], some ⟨1, 0x80, 0x9f, 0xd⟩)
  else if byte < 0xf0 then ([], some ⟨1, 0x80, 0xbf, byte - 0xe0⟩)
  else if byte = 0xf0 then ([], some ⟨2, 0x90, 0xbf, 0⟩)
  else if byte < 0xf4 then ([], some ⟨2, 0x80, 0xbf, byte - 0xf0⟩)
  else if byte = 0xf4 then ([], some ⟨2, 0x80, 0x8f, 4⟩)
  else ([replacement], none)

/-- What a byte does after a character that is not complete, if there is one. -/
def next (byte : Nat) : Option Pending → Step
  | none => begin byte
  | some pending =>
    if pending.least ≤ byte ∧ byte ≤ pending.greatest then
      let value := pending.value * 64 + byte % 64
      match pending.later with
      | 0 => ([Char.ofNat value], none)
      | later + 1 => ([], some ⟨later, 0x80, 0xbf, value⟩)
    else (replacement :: (begin byte).1, (begin byte).2)

/-- The text of a byte string that follows a character that is not complete, if there is one. -/
def decodeAfter : Option Pending → Bytes → List Char
  | none, [] => []
  | some _, [] => [replacement]
  | pending, byte :: rest =>
    let (chars, left) := next byte.toNat pending
    chars ++ decodeAfter left rest

/-- Every byte string reads as some text: a character that breaks off, or a byte that starts none,
becomes one replacement character, and reading goes on with the first byte that could not continue
it. -/
def decode (bytes : Bytes) : String :=
  String.ofList (decodeAfter none bytes)

end FirmwareDisk.Utf8
