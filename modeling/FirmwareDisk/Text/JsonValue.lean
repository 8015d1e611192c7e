import FirmwareDisk.Text.Hex

set_option autoImplicit false

namespace FirmwareDisk

/-- A JSON document. -/
inductive JsonValue where
  | null
  | bool (value : Bool)
  | number (value : Int)
  | string (text : String)
  | array (items : List JsonValue)
  | object (members : List (String × JsonValue))

namespace JsonValue

/-- A character inside a string: control characters and the two that mean something are escaped. -/
def escape (char : Char) : String :=
  match char with
  | '"' => "\\\""
  | '\\' => "\\\\"
  | '\n' => "\\n"
  | '\r' => "\\r"
  | '\t' => "\\t"
  | char =>
    if char.toNat = 0x08 then "\\b"
    else if char.toNat = 0x0c then "\\f"
    else if char.toNat < 0x20 then "\\u00" ++ Hex.ofByte (UInt8.ofNat char.toNat)
    else String.singleton char

def quote (text : String) : String :=
  "\"" ++ String.join (text.toList.map escape) ++ "\""

def lineStart (depth : Nat) : String :=
  "\n" ++ String.ofList (List.replicate (2 * depth) ' ')

mutual

/-- The text of a document that stands at some depth. -/
def renderAt (depth : Nat) : JsonValue → String
  | .null => "null"
  | .bool value => if value then "true" else "false"
  | .number value => toString value
  | .string text => quote text
  | .array [] => "[]"
  | .array (item :: items) =>
    "[" ++ lineStart (depth + 1) ++ renderAt (depth + 1) item ++ renderItems (depth + 1) items ++
      lineStart depth ++ "]"
  | .object [] => "\x7b\x7d"
  | .object ((key, value) :: members) =>
    "\x7b" ++ lineStart (depth + 1) ++ quote key ++ ": " ++ renderAt (depth + 1) value ++
      renderMembers (depth + 1) members ++ lineStart depth ++ "\x7d"

def renderItems (depth : Nat) : List JsonValue → String
  | [] => ""
  | item :: items => "," ++ lineStart depth ++ renderAt depth item ++ renderItems depth items

/-- The members of an object after the first. -/
def renderMembers (depth : Nat) : List (String × JsonValue) → String
  | [] => ""
  | (key, value) :: members =>
    "," ++ lineStart depth ++ quote key ++ ": " ++ renderAt depth value ++
      renderMembers depth members

end

def render (document : JsonValue) : String :=
  renderAt 0 document

end JsonValue

end FirmwareDisk
