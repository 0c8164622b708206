import BundleFinish.Text.CodeRanges

/-! # Quoted text

A text between double quotes, as programs show it to programmers: the quote and the backslash get a
backslash, tab, newline, carriage return and the zero character have short forms, and characters
without a visible form of their own are given by their code points. -/

namespace BundleFinish.Text

/-- Ranges of the property `Grapheme_Extend`: marks that attach to the character before them. -/
def graphemeExtendRanges : CodeRanges := CodeRanges.ofLines [
  "300 6f 114 6 108 2c 2 0 2 1 2 1 2 0 49 a 31 14 11 0 66 6 3 5 3 1 2 3 24 0 1f 1a 5c a 3b 8 ",
  "a 0 19 3 2 8 2 2 2 4 2c 2 3c 8 2b 17 2 1f 38 0 2 0 5 7 5 0 4 6 b 1 1e 0 3b 0 2 0 3 3 9 0 ",
  "a 0 b 1 1b 0 3 1 3a 0 5 1 5 1 3 2 4 0 1f 1 4 0 c 1 3a 0 5 4 2 1 5 0 15 1 17 5 2 0 3b 0 2 ",
  "1 2 3 9 0 8 2 b 1 1f 0 3c 0 2 0 d 0 a 0 29 0 4 0 38 0 2 2 6 2 2 3 8 1 c 1 1e 0 3b 0 3 1 2 ",
  "0 4 2 2 3 8 1 c 1 1d 1 3a 1 2 0 3 3 9 0 a 0 b 1 1e 0 49 0 5 0 3 2 2 0 9 0 52 0 3 6 d 7 63 ",
  "0 3 8 c 6 4a 1 1c 0 2 0 2 0 38 d 2 4 2 1 6 a 2 23 a 0 67 3 2 5 2 1 3 1 1a 1 5 2 11 3 e 0 ",
  "3 1 7 0 10 0 2c0 2 3b3 3 1d 2 1e 1 1f 1 41 1 2 6 9 0 3 a a 0 2e 2 2 0 76 1 23 0 77 2 5 1 ",
  "a 0 7 2 dc 1 3 0 3b 0 2 6 2 0 2 0 3 7 7 9 3 0 31 2d 3 b 15 3 31 9 5 2 27 8 d 1 21 3 3 5 ",
  "39 0 2 1 4 0 2 4 39 7 3 1 99 2 2 c 2 6 5 0 7 0 4 1 c7 3f 20d 0 c4 20 bff 2 8e 0 61 1f 22b ",
  "5 6a 1 75d5 3 2 9 21 1 51 1 111 0 4 0 5 0 1a 1 6 0 98 1 1b 11 e 0 27 7 1a a 2 0 2d 2 31 0 ",
  "3 3 3 1 3 0 25 0 44 5 3 1 3 1 d 0 9 0 30 0 34 0 2 2 3 1 6 1 2 0 2b 1 9 0 ef 0 3 0 5 0 ",
  "4f31 0 2e2 f 11 f 16f 1 25e 0 e3 0 96 4 687 2 2 1 6 3 29 2 5 0 a6 1 23e 3 42 4 13e 1 4e 5 ",
  "47 a 32 3 7c 0 37 e 2a 0 3 1 b 2 32 3 3 1 8 0 3e 2 25 4 2 7 3f 0 d 1 35 8 2 0 9 3 3 0 60 ",
  "2 3 3 7 0 3 0 9e 0 4 7 16 1 3a 1 2 0 2 0 d 0 a 0 f 6 4 4 44 0 3 5 2 0 3 0 2 2 5 2 2 0 f 1 ",
  "56 7 3 2 2 0 18 0 52 0 3 5 2 0 3 0 2 1 2 1 ec 0 3 3 7 1 2 1 1c 1 56 7 3 0 2 1 6b 0 2 0 3 ",
  "7 66 0 2 0 3 3 2 4 104 8 2 1 f6 0 b 3 5 0 91 3 3 1 5 0 21 9 29 5 3 3 9 0 a 5 3 2 2f c 2 1 ",
  "c7 0 2 2 2 0 ca 6 2 5 2 0 53 15 3 6 2 1 2 1 7b 5 4 0 2 1 2 6 2 0 49 1 4 0 2 0 15c 1 c 1 ",
  "35 4 6 2 18 0 14e6 0 7 e 2cc9 b 4 2 9c1 4 3c 6 419 0 40 3 52 0 c 1 4cac 1 1262 2d 3 16 ",
  "21f 4 4 5 9 7 3 6 1f 3 95 2 7bc 36 5 31 9 0 f 0 17 4 2 e 551 6 2 10 3 6 2 1 2 4 65 0 a1 6 ",
  "178 0 3e 3 1fd 3 ff 1 f4 0 3 0 8 1 6 0 1db 6 6e 6 c16d6 5f 81 ef "]

/-- Characters without a visible form: controls, format characters, surrogates, private and
unassigned code points, and separators other than the space. -/
def unprintableRanges : CodeRanges := CodeRanges.ofLines [
  "0 1f 60 21 d 0 2cb 1 7 3 8 0 2 0 15 0 18e 0 27 1 33 1 4 0 38 7 1c 3 7 10 17 0 c1 0 31 1 ",
  "3c 1 66 d 3c 1 32 1 10 0 1d 1 2 0 c 4 21 6 4c 0 a2 0 9 1 3 1 17 0 8 0 2 2 5 1 a 1 3 1 5 7 ",
  "2 3 3 0 6 1 1a 1 4 0 7 3 3 1 17 0 8 0 3 0 3 0 3 1 2 0 6 3 3 1 4 2 2 6 5 0 2 6 12 9 4 0 a ",
  "0 4 0 17 0 8 0 3 0 6 1 b 0 4 0 4 1 2 e 5 1 d 6 8 0 4 0 9 1 3 1 17 0 8 0 3 0 6 1 a 1 3 1 4 ",
  "6 4 3 3 0 6 1 13 9 3 0 7 2 4 0 5 2 3 0 2 0 3 2 3 2 4 2 d 3 6 2 4 0 5 1 2 5 2 d 16 4 e 0 4 ",
  "0 18 0 11 1 a 0 4 0 5 6 3 0 4 0 3 1 5 1 b 6 17 0 4 0 18 0 b 0 6 1 a 0 4 0 5 6 3 4 4 0 5 1 ",
  "b 0 4 b e 0 4 0 34 0 4 0 7 3 11 1 1b 0 4 0 13 2 19 0 a 0 2 1 8 2 2 3 7 0 2 0 9 5 b 1 4 b ",
  "3b 3 1e 24 3 0 2 0 6 0 19 0 2 0 18 1 6 0 2 0 8 0 b 1 5 1f 49 0 25 3 28 0 25 0 10 0 e 24 ",
  "c7 0 2 4 2 1 17a 0 5 1 8 0 2 0 5 1 2a 0 5 1 22 0 5 1 8 0 2 0 5 1 10 0 3a 0 5 1 44 1 21 2 ",
  "1b 5 57 1 7 1 281 0 1d 2 5a 6 17 8 19 8 15 b e 0 4 0 3 b 5f 1 b 5 b 5 f 0 c 5 5a 6 2c 4 ",
  "47 9 20 0 d 3 d 3 2 2 2b 1 6 a 2d 3 1b 5 c 2 3f 1 42 0 1e 1 c 5 b 5 f 1 2f 1 d 13 4e 0 a7 ",
  "7 3d 2 10 2 3f 4 2c 1 c 7 2c 4 217 1 7 1 27 1 7 1 9 0 2 0 2 0 2 0 20 1 36 0 10 0 f 1 7 0 ",
  "14 1 4 0 a 10 19 7 30 10 3 1 1c 0 e 2 23 d 22 e 8d 3 29b 15 c 14 715 1 17f 4 2e 0 2 4 2 1 ",
  "39 6 3 d 19 8 8 0 8 0 8 0 8 0 8 0 8 0 8 0 8 0 7f 21 1b 0 5a b d7 19 11 0 40 0 57 1 68 4 ",
  "2c 0 5f 0 57 8 31 0 726e 2 38 8 15d 13 b9 7 de 13 3d 2 b 5 39 7 47 7 d 5 75 a 1f 2 4f 0 c ",
  "3 22 0 38 8 f 1 b 1 68 17 1d 9 7 1 7 1 7 8 8 0 8 0 3d 3 7f 1 b 5 2ba5 b 18 3 32 3 801 ",
  "18ff 16f 1 6b 25 8 b 6 4 1b 0 6 0 2 0 3 0 3 0 28b 1f 2b 5 34 0 14 0 5 3 6 0 88 3 bf 2 7 1 ",
  "7 1 7 1 4 2 8 0 8 c 3 1 d 0 1b 0 14 0 3 0 10 1 f 21 7c 4 4 3 2e 2 59 0 e 2 2 2e 2f 81 1e ",
  "2 32 e 1d 3 25 8 1f 4 2c 4 1f 0 26 3 f 29 9f 1 b 5 25 3 25 3 29 7 35 a d 0 10 0 8 0 3 0 c ",
  "0 10 0 8 0 3 2 35 b 138 8 17 9 9 17 7 0 2b 0 a 44 7 1 2 0 2d 0 3 2 2 1 18 0 49 7 a 2f 14 ",
  "0 3 4 22 2 1c 4 1c 25 39 3 15 1 33 0 3 4 9 0 4 0 1e 1 4 3 b 6 a 6 41 1f 28 3 d 8 37 2 1e ",
  "1 1c 4 1b 6 5 b 8 4f 4a 36 34 c 34 6 2f 7 b 5 27 2 1e 7 3 cf 20 0 2b 0 4 1 3 f 7 7 a 20 ",
  "2f 7 2b 15 1b 25 1d 13 18 8 4f 3 25 8 3f 0 6 c 1a 6 b 5 36 0 13 7 28 8 61 0 15 a 13 0 30 ",
  "3d 8 0 2 0 5 0 10 0 c 5 3c 4 b 5 5 0 9 1 3 1 17 0 8 0 3 0 6 0 b 1 3 1 4 1 2 5 2 4 8 1 8 2 ",
  "6 a b 0 2 1 2 0 27 0 b 0 2 1 2 0 5 0 b 0 3 7 3 1c 5d 0 6 1d 49 7 b a5 37 1 27 21 46 a b 5 ",
  "e 12 3b 5 b 5 15 1b 1c 1 10 3 18 b8 3d 63 54 b 9 1 2 1 9 0 3 0 1f 0 3 1 d 8 b 45 9 1 2f 1 ",
  "c 1a 49 7 54 c 4a 6 b 55 9 57 23 d b 5 a 0 2e 0 f 9 1e 2 21 1 17 0 f 48 8 0 3 0 2d 2 2 0 ",
  "3 0 a 7 b 5 7 0 3 0 26 0 3 0 7 6 b 5 2d 3 b f5 1a 6 12 0 2a 2 1e 54 2 e 33 c 39c 65 70 0 ",
  "6 a c5 a4b 64 c 431 f 17 9 f9c 4 248 1ab8 3b 6c5 23a 6 20 0 b 3 52 0 b 5 1f 1 7 9 47 9 b ",
  "0 8 0 16 4 14 1af 3b c5 5c 4 1a 1 1a 2b 4c 3 3a 6 12 3f 6 a 8 8 1cd7 28 21 60 74 21fc 5 0 ",
  "8 0 3 0 124 e 2 1c 4 1 2 d 5 7 18d 903 6c 4 e 2 a 6 b 1 5 f5f fe 2 1b5 5 18 e 12 e 2f 1 ",
  "18 8 75 3b f7 9 28 1 4b 7 71 14 47 79 15 b 15 b 58 8 1a 86 56 0 48 0 3 1 2 1 3 1 5 0 d 0 ",
  "2 0 8 0 42 0 5 1 9 0 8 0 1d 0 5 0 6 0 2 2 8 0 155 1 125 1 2bf e 6 0 10 44f 20 5 7 d4 8 0 ",
  "12 1 8 0 3 0 6 4 3f 20 2 6f 2e 2 f 1 b 3 3 13f 20 10 3b 4 2 1cf 2b d5 2c 3 2 bf 20 0 17 7 ",
  "3 df 8 0 5 0 3 0 10 0 c6 1 11 28 4d 3 b 3 3 310 45 4b 3e c1 5 0 1c 0 3 0 2 1 2 0 b 0 5 0 ",
  "2 0 2 5 2 3 2 0 2 0 2 0 4 0 3 0 2 1 2 0 2 0 2 0 2 0 2 0 3 0 2 1 5 0 8 0 5 0 5 0 2 0 b 0 ",
  "12 4 4 0 6 0 12 33 3 10d 2d 3 65 b 10 1 10 0 10 0 26 9 af 37 1e c 2d 3 a 6 3 d 7 99 3da 2 ",
  "12 2 e 2 db 5 d 3 2 e d 3 39 7 b 5 29 7 1f 1 d 3 3 d a 26 159 7 f 1 e 2 c 2 3a 0 2 3 11 1 ",
  "d 3 b 6 94 0 68 404 a6e1 1f 111f 1 168f 1 1d32 e 26f 9a1 21f 5e1 134c 4 212b acc85 f1 ",
  "2fe0f "]

/-- Whether a character is shown as itself. -/
def isShown (c : Char) : Bool :=
  if c.toNat < 128 then 32 ≤ c.toNat && c.toNat < 127
  else !graphemeExtendRanges.holdsChar c && !unprintableRanges.holdsChar c

/-- A number in lower-case hexadecimal digits. -/
def hexadecimal (n : Nat) : List Char := Nat.toDigits 16 n

/-- A character as it stands between quotes. -/
def escapeShown (c : Char) : List Char :=
  if c = Char.ofNat 0 then ['\\', '0']
  else if c = '\t' then ['\\', 't']
  else if c = '\r' then ['\\', 'r']
  else if c = '\n' then ['\\', 'n']
  else if c = '\\' ∨ c = '"' then ['\\', c]
  else if isShown c then [c]
  else "\\u\x7b".toList ++ hexadecimal c.toNat ++ ['\x7d']

/-- A text between double quotes. -/
def quoted (text : String) : String :=
  String.ofList ('"' :: text.toList.flatMap escapeShown ++ ['"'])

end BundleFinish.Text
