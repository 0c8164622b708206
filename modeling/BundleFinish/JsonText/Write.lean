import BundleFinish.JsonText.Failure

/-! # Writing JSON

Strings get the short escapes where there are any; other control characters are given by their code
units, and everything else stands for itself. Objects and lists are written without spaces. -/

namespace BundleFinish.JsonText.Write

/-- A character inside a string. -/
def character (c : Char) : List Char :=
  if c = '"' then ['\\', '"']
  else if c = '\\' then ['\\', '\\']
  else if c = '\n' then ['\\', 'n']
  else if c = '\r' then ['\\', 'r']
  else if c = '\t' then ['\\', 't']
  else if c.toNat = 8 then ['\\', 'b']
  else if c.toNat = 12 then ['\\', 'f']
  else if c.toNat < 32 then
    "\\u00".toList ++ (if c.toNat < 16 then ['0'] else []) ++ Text.hexadecimal c.toNat
  else [c]

/-- A string. -/
def string (text : String) : String :=
  String.ofList ('"' :: text.toList.flatMap character ++ ['"'])

/-- A list of written items. -/
def list (items : List String) : String := "[" ++ ",".intercalate items ++ "]"

/-- An object of written entries. -/
def object (entries : List (String × String)) : String :=
  "\x7b" ++ ",".intercalate (entries.map fun entry => string entry.1 ++ ":" ++ entry.2) ++ "\x7d"

end BundleFinish.JsonText.Write
