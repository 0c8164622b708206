import BundleFinish.Text.Utf8

/-! # The environment of a process

A process gets its environment as octets: each variable is a name, an equals sign and a value, and
the octet zero ends it. -/

namespace BundleFinish.CommandLine.Environment

/-- The octet of `=`. -/
def equalsSign : UInt8 := 0x3d

/-- The octets before each octet zero; what follows the last one is dropped. -/
def splitZero : Bytes → Bytes → List Bytes
  | _, [] => []
  | piece, octet :: rest =>
    if octet = 0 then piece.reverse :: splitZero [] rest else splitZero (octet :: piece) rest

/-- A name and a value; a variable that is not text is left out. -/
def binding? (piece : Bytes) : Option (String × String) := do
  let name ← Utf8.decode? (piece.takeWhile (· ≠ equalsSign))
  let value ← Utf8.decode? ((piece.dropWhile (· ≠ equalsSign)).drop 1)
  return (name, value)

/-- The variables of an environment. -/
def ofOctets (octets : Bytes) : List (String × String) := (splitZero [] octets).filterMap binding?

end BundleFinish.CommandLine.Environment
