import BundleFinish.Logging.Filter
import BundleFinish.Text.Quoted

/-! # Log lines as they are printed

A line is its level, as wide as the widest one, and its text. Characters with which a text could
steer the screen are shown by their numbers. -/

namespace BundleFinish.Logging

/-- The width of the level in a line. -/
def levelWidth : Nat := 5

/-- A character as it is printed. -/
def printedChar (c : Char) : List Char :=
  let n := c.toNat
  if n = 0x1b then "\\x1b".toList
  else if n = 0x07 then "\\x07".toList
  else if n = 0x08 then "\\x08".toList
  else if n = 0x0c then "\\x0c".toList
  else if n = 0x7f then "\\x7f".toList
  else if 0x80 ≤ n ∧ n ≤ 0x9f then "\\u\x7b".toList ++ Text.hexadecimal n ++ ['\x7d']
  else [c]

/-- A line as it is printed. -/
def printedLine (level : Level) (text : String) : String :=
  let word := level.word
  String.ofList (List.replicate (levelWidth - word.length) ' ') ++ word ++ " "
    ++ String.ofList (text.toList.flatMap printedChar) ++ "\n"

/-- Whether lines are coloured: never where that is refused, always where that is asked for, and else
on a terminal. -/
def usesColors (environment : List (String × String)) (onTerminal : Bool) : Bool :=
  if (environment.lookup "NO_COLOR").isSome then false
  else if (environment.lookup "FORCE_COLOR").isSome then true
  else onTerminal

end BundleFinish.Logging
