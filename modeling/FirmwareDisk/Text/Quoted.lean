import FirmwareDisk.Text.Hidden

set_option autoImplicit false

namespace FirmwareDisk.Quoted

def byNumber (char : Char) : String :=
  "\\u\x7b" ++ String.ofList (Nat.toDigits 16 char.toNat) ++ "\x7d"

/-- A character inside quotes. -/
def escape (char : Char) : String :=
  match char with
  | '\x00' => "\\0"
  | '\t' => "\\t"
  | '\n' => "\\n"
  | '\r' => "\\r"
  | '"' => "\\\""
  | '\\' => "\\\\"
  | char => if Hidden.isHidden char then byNumber char else String.singleton char

def quote (text : String) : String :=
  "\"" ++ String.join (text.toList.map escape) ++ "\""

end FirmwareDisk.Quoted
