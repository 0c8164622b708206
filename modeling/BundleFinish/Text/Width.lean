import BundleFinish.Text.CodeRanges

/-! # Widths of characters

How many columns a character takes on a screen: none for controls, for what is ignored by default
and for marks that attach to the character before them, two for wide and fullwidth characters, and
one for all others. -/

namespace BundleFinish.Text

/-- Ranges of the characters without a column of their own. -/
def zeroWidthRanges : CodeRanges := CodeRanges.ofLines [
  "0 1f 60 20 e 0 253 6f 114 6 108 2c 2 0 2 1 2 1 2 0 3e 0 b a 2 0 2f 14 11 0 66 6 3 5 3 1 ",
  "2 3 22 0 2 0 1f 1a 5c a 3b 8 a 0 19 3 2 8 2 2 2 4 2c 2 35 1 7 7 2b 38 38 0 2 0 5 7 5 0 ",
  "4 6 b 1 1e 0 3b 0 2 0 3 3 9 0 a 0 b 1 1b 0 3 1 3a 0 5 1 5 1 3 2 4 0 1f 1 4 0 c 1 3a 0 5 ",
  "4 2 1 5 0 15 1 17 5 2 0 3b 0 2 1 2 3 9 0 8 2 b 1 1f 0 3c 0 2 0 d 0 a 0 29 0 4 0 38 0 2 ",
  "2 6 2 2 3 8 1 c 1 1e 0 3b 0 3 0 3 0 4 0 6 1 8 1 c 1 1d 1 3a 1 2 0 3 3 9 0 a 0 b 1 1e 0 ",
  "49 0 5 0 3 2 2 0 9 0 52 0 3 6 d 7 63 0 3 8 c 6 4a 1 1c 0 2 0 2 0 38 d 2 4 2 1 6 a 2 23 ",
  "a 0 67 3 2 5 2 1 3 1 1a 1 5 2 11 3 e 0 3 1 7 0 10 0 c3 9f 15e 2 3b3 2 1e 1 1f 1 1f 1 41 ",
  "1 2 6 9 0 3 a a 0 2e 4 76 1 23 0 77 2 5 1 a 0 7 2 dc 1 3 0 3b 0 2 6 2 0 2 0 3 7 7 9 3 0 ",
  "31 1e 32 3 31 6 2 0 6 0 29 8 d 1 21 3 3 1 2 2 39 0 2 1 4 0 2 2 3b 7 3 1 99 2 2 c 2 6 5 ",
  "0 7 0 4 1 c7 3f 20c 4 1b 4 32 f 61 20 bff 2 8e 0 61 1f 22b 5 6a 1 ca 0 750b 3 2 9 21 1 ",
  "51 1 111 0 4 0 5 0 1a 1 6 0 98 1 1b 11 9 0 5 0 27 7 1a a 2f 2 31 0 3 3 3 1 28 0 44 5 3 ",
  "1 3 1 d 0 9 0 30 0 34 0 2 2 3 1 6 1 2 0 2b 1 9 0 ef 0 3 0 5 0 2bc3 16 5 30 2323 0 2e2 f ",
  "11 f d0 0 9f 2 50 8 205 0 e3 0 96 4 687 2 2 1 6 3 29 2 5 0 a6 1 23e 3 184 1 51 2 47 a ",
  "32 3 7c 0 37 e 2a 0 3 1 b 2 32 3 3 1 8 0 3e 2 25 4 2 7 3f 0 d 1 35 8 b 3 3 0 60 2 3 0 2 ",
  "1 7 0 3 0 9e 0 4 7 16 1 3a 1 2 0 2 0 17 0 f 6 4 4 c4 7 3 2 2 0 18 0 52 0 3 5 2 0 3 0 2 ",
  "1 2 1 ec 0 3 3 7 1 2 1 1c 1 56 7 3 0 2 1 6b 0 2 0 3 5 2 0 66 2 3 3 2 4 104 8 2 1 f6 0 b ",
  "1 2 0 5 0 91 3 3 1 5 0 21 9 29 5 3 3 9 0 a 5 3 2 2f c 2 1 197 6 2 5 2 0 53 15 3 6 2 1 2 ",
  "1 7b 5 4 0 2 1 2 6 2 0 49 1 4 0 2 0 15c 1 c 1 35 4 6 0 2 0 14fe 0 7 e 369b 4 3c 6 419 0 ",
  "40 3 52 0 4cb9 1 2 3 125d 2d 3 16 21f 0 2 2 5 14 3 6 1f 3 95 2 7bc 36 5 31 9 0 f 0 17 4 ",
  "2 e 551 6 2 10 3 6 2 1 2 4 65 0 a1 6 178 0 3e 3 1fd 3 3e1 6 6e 6 c16b6 fff "
]

/-- Ranges of the characters with two columns: the East Asian widths `W` and `F`. -/
def doubleWidthRanges : CodeRanges := CodeRanges.ofLines [
  "1100 5f 11bb 1 e 1 bf 3 4 0 3 0 20a 1 16 1 33 b 2c 0 14 0 e 0 9 1 12 1 6 1 9 0 6 0 16 0 ",
  "8 1 2 0 5 0 3 0 8 0 5 1 1d 0 24 0 2 0 5 2 2 0 3e 2 19 0 f 0 35c 1 34 0 5 0 32b 19 2 58 ",
  "d d5 1b b 5 29 7 e 3 55 5 64 6 2a 2 32 2 29 2 53 d 2e 2 27 9 1b6f 41 568c 4 36 49a 1c ",
  "284 2ba3 215d 1ff 311 9 17 22 2 12 2 3 96 5f 80 6 6ffa 3 d 1 f 17f7 9 4d5 2b 8 22e8 3 2 ",
  "6 2 1 2 122 10 0 1e 2 3 0 f 3 9 18b 3d09 0 cb 0 bf 0 3 9 66 2 e 2b 5 8 8 1 f 5 9b 20 d ",
  "8 2 45 2 15 d 2a 5 4 d 10 4 0 4 46 2 0 2 ba 3 3e e 3 2 17 13 0 1b 1 e 0 57 54 31 45 7 0 ",
  "4 2 3 2 5 3 c 1 8 8 e4 b 5 0 11c 2e 2 9 2 b8 71 c 4 8 8 2d 2 6 9 d 5 8 8 8 508 fffd 3 ",
  "fffd "
]

/-- The number of columns of a character. -/
def charWidth (c : Char) : Nat :=
  if c.toNat < 128 then if c.toNat < 32 ∨ c.toNat = 127 then 0 else 1
  else if zeroWidthRanges.holdsChar c then 0
  else if doubleWidthRanges.holdsChar c then 2
  else 1

end BundleFinish.Text
