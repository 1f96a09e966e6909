/-!
Contract: the inspection text of values, as it appears in diagnostics.

A record is written `Name ⟨field: value, …⟩` with braces, a value with one
component `Name(value)`, and text between double quotes with escapes. Control
characters are escaped; all other characters stand as they are, so escaping is
exact for ASCII text, the only text that is inspected.
-/

namespace TransportBridge.Inspect

/-- Lower-case hexadecimal digits of a number, without leading zeros. -/
def hex (value : Nat) : String :=
  String.ofList (Nat.toDigits 16 value)

private def comma (parts : List String) : String :=
  ", ".intercalate parts

private def field (entry : String × String) : String :=
  entry.1 ++ ": " ++ entry.2

private def braced (name body : String) : String :=
  name ++ " \x7b " ++ body ++ " \x7d"

/-- A record with all its fields. -/
def record (name : String) (fields : List (String × String)) : String :=
  braced name (comma (fields.map field))

/-- A record that has more fields than it shows. -/
def openRecord (name : String) (fields : List (String × String)) : String :=
  braced name (comma (fields.map field ++ [".."]))

/-- A value with one unnamed component. -/
def tuple (name value : String) : String :=
  name ++ "(" ++ value ++ ")"

def optional (value : Option String) : String :=
  match value with
  | none => "None"
  | some text => tuple "Some" text

def bool (value : Bool) : String :=
  if value then "true" else "false"

private def escapedChar (c : Char) : String :=
  if c = '"' then "\\\""
  else if c = '\\' then "\\\\"
  else if c = '\n' then "\\n"
  else if c = '\r' then "\\r"
  else if c = '\t' then "\\t"
  else if c = '\x00' then "\\0"
  else if c.toNat < 0x20 ∨ c.toNat = 0x7f then
    "\\u\x7b" ++ hex c.toNat ++ "\x7d"
  else c.toString

/-- Text between double quotes. -/
def text (value : String) : String :=
  "\"" ++ String.join (value.toList.map escapedChar) ++ "\""

private def twoDigits (value : Nat) : String :=
  if value < 16 then "0" ++ hex value else hex value

private def escapedByte (b : UInt8) : String :=
  if b = 0x0a then "\\n"
  else if b = 0x0d then "\\r"
  else if b = 0x09 then "\\t"
  else if b = 0x5c then "\\\\"
  else if b = 0x22 then "\\\""
  else if b = 0 then "\\0"
  else if 0x20 ≤ b ∧ b < 0x7f then (Char.ofNat b.toNat).toString
  else "\\x" ++ twoDigits b.toNat

/-- A byte string: printable ASCII stands as it is, other bytes as two digits. -/
def bytes (value : List UInt8) : String :=
  "b\"" ++ String.join (value.map escapedByte) ++ "\""

end TransportBridge.Inspect
