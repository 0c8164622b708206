import BundleFinish.Text.CodeRanges

/-! # Line breaking classes

The property `Line_Break` of characters. Ambiguous, surrogate and unknown characters count as
alphabetic, conditional starters as non-starters, and characters of scripts that need a dictionary as
alphabetic or, if they are marks, as combining. -/

namespace BundleFinish.Text

/-- How a character takes part in line breaking. -/
inductive LineBreakClass where
  /-- Letters, and everything that has no class of its own. -/
  | alphabetic
  | breakBoth
  | breakAfter
  | breakBefore
  /-- A forced break after it. -/
  | mandatory
  /-- A place for an object whose breaks are unknown. -/
  | contingent
  | closing
  /-- A mark that attaches to the character before it. -/
  | combining
  /-- A closing parenthesis or square bracket. -/
  | closingParenthesis
  | carriageReturn
  | emojiBase
  | emojiModifier
  | exclamation
  | glue
  | hebrewLetter
  | hyphen
  | ideographic
  | inseparable
  | infixSeparator
  | hangulLeading
  | hangulTrailing
  | hangulVowel
  | lineFeed
  | nextLine
  | nonStarter
  | numeric
  | opening
  /-- An opening bracket of East Asian width. -/
  | wideOpening
  | postfixNumeric
  | prefixNumeric
  | quotation
  | regionalIndicator
  | space
  | slash
  | wordJoiner
  | zeroWidthSpace
  /-- The zero-width joiner. -/
  | joiner
  | hangulLv
  | hangulLvt
  deriving DecidableEq, Repr

namespace LineBreakClass

/-- The ranges of the classes, without Hangul syllables and alphabetic characters. -/
def table : List (LineBreakClass × CodeRanges) := [
    (.breakBoth, CodeRanges.ofLines [
      "2014 0 e26 1 "]),
    (.breakAfter, CodeRanges.ofLines [
      "9 0 73 0 31 0 4dd 0 34 0 3a6 1 4f5 1 b0 0 29 0 4b 0 6 0 39 1 13 0 78 1 316 0 9f 0 280 0 ",
      "6b 2 48 1 9e 1 3 0 2 0 2a 1 355 1 2 3 1d 1 bd 4 3f 1 381 6 2 2 6 0 2 1 14 0 2f 0 2 3 2 ",
      "2 c9b 2 3 0 71 0 9e 7 2 0 2 0 11 3 3 1 2 1 8 2 2 1 2 7 2 0 2 1 e 0 1a3 0 74fe 1 10e 0 2 ",
      "0 e4 4 1d7 1 5f 1 98 2 94 2 91 1 fa 0 5515 2 29d 0 31 0 487 0 c8 0 131 7 99 5 44 6 36e ",
      "0 19a 1 76 3 7f 3 82 1 2 0 15 2 59 1 2 1 6d 0 1a2 3 c 1 167 1 6 e 6a 1 fa 2 206 2 fb 3 ",
      "56 2 5 1 19f 4 2fe 1 bb 0 471 4 45fa 1 86 0 42 2 b 0 353 1 4e07 0 1de8 3 "]),
    (.breakBefore, CodeRanges.ofLines [
      "b4 0 214 0 4 0 13 0 998 0 d 0 27d 3 2 1 2 1 c6 1 2 0 833 0 7f7 0 8877 1 87 0 6879 0 66 ",
      "0 3e6 0 9f c 376 0 5d 0 6 0 59 2 60 9 167 0 "]),
    (.mandatory, CodeRanges.ofLines [
      "b 1 201c 1 "]),
    (.contingent, CodeRanges.ofLines [
      "fffc 0 "]),
    (.closing, CodeRanges.ofLines [
      "7d 0 ebe 0 2 0 75f 0 9aa 0 38 0 10 0 27b 0 2 0 1f 0 43f 0 2 0 2 0 2 0 2 0 2 0 2 0 51 0 ",
      "21 0 2 0 2 0 2 0 2 0 195 0 2 0 2 0 2 0 2 0 2 0 2 0 2 0 2 0 2 0 2 0 41 0 2 0 22 0 426 0 ",
      "2 0 2 0 2 0 2d 0 2 0 2 0 2 0 1a5 1 7 0 2 0 2 0 2 0 2 0 4 0 2 0 2 0 2 0 3 1 cd1f 0 d3 1 ",
      "6 0 1e 0 2 0 2 0 2 0 2 0 2 0 2 0 2 0 4 0 8 0 2 0 8 0 2 0 2 0 ab 0 3 0 2 0 2f 0 20 0 3 1 ",
      "2 1 32f7 2 25 0 5 0 2 0 f1 1 bd 0 5 0 2 0 1190 0 "]),
    (.combining, CodeRanges.ofLines [
      "0 8 6 11 60 5 2 19 261 4e 2 b 8 c 114 6 108 2c 2 0 2 1 2 1 2 0 49 a 2 0 2f 14 11 0 66 6 ",
      "3 5 3 1 2 3 24 0 1f 1a 5c a 3b 8 a 0 19 3 2 8 2 2 2 4 2c 2 3d 7 2b 17 2 20 37 2 2 11 2 ",
      "6 b 1 1e 2 39 0 2 6 3 1 3 2 a 0 b 1 1b 0 3 2 39 0 2 4 5 1 3 2 4 0 1f 1 4 0 c 2 39 0 2 7 ",
      "2 2 2 2 15 1 17 5 2 2 39 0 2 6 3 1 3 2 8 2 b 1 1f 0 3c 4 4 2 2 3 a 0 29 4 38 0 2 6 2 2 ",
      "2 3 8 1 c 1 1e 2 39 0 2 6 2 2 2 3 8 1 c 1 10 0 d 3 38 1 2 6 2 2 2 3 a 0 b 1 1e 2 47 0 5 ",
      "5 2 0 2 7 13 1 3e 0 3 6 d 7 63 0 3 8 c 6 4a 1 1c 0 2 0 2 0 5 1 32 d 2 4 2 1 6 a 2 23 a ",
      "0 65 13 18 3 5 2 2 2 3 6 4 3 e b 2 0 b 3 2c0 2 3b3 3 1d 2 1e 1 1f 1 41 1f a 0 2e 2 2 0 ",
      "76 1 23 0 77 b 5 b dc 4 3a 9 2 1c 3 0 31 1e 32 4 30 10 27 8 d 2 1f c 39 d 31 13 99 2 2 ",
      "14 5 0 7 0 3 2 c7 c 2 2d 2 2 20d 0 2 1 1b 4 38 9 61 20 bff 2 8e 0 61 1f 22b 5 6 0 64 1 ",
      "75d5 3 2 9 21 1 51 1 111 0 4 0 5 0 18 4 5 0 54 1 33 11 1b 11 e 0 27 7 1a c 2d 3 30 d 25 ",
      "0 44 d d 0 9 1 2e 2 33 0 2 2 3 1 6 1 2 0 2a 4 6 1 ed 7 2 1 4f31 0 2e2 f 11 f 1ca 2 202 ",
      "0 e3 0 96 4 687 2 2 1 6 3 29 2 5 0 a6 1 23e 3 184 1 51 2 47 a 32 3 7b 2 36 e 2a 0 3 1 b ",
      "3 2e a 8 0 3e 2 25 d 11 1 2d 0 d 2 31 d 9 3 2 1 5d b 7 0 3 0 9e b 16 3 38 1 2 6 3 1 3 2 ",
      "a 0 b 1 3 6 4 4 c1 11 18 0 52 13 ec 6 3 8 1c 1 53 10 6b c 66 e 101 e f6 5 2 1 3 3 2 0 2 ",
      "1 8e 6 3 6 4 0 1d 9 29 6 2 3 9 0 a a 2f f 196 7 2 7 53 15 2 d 7b 5 4 0 2 1 2 6 2 0 43 4 ",
      "2 1 2 4 15c 3 a 1 2 0 31 6 4 4 14fe 0 7 e 369b 4 3c 6 419 0 2 36 8 3 5e 1 4cac 1 2 3 ",
      "125d 2d 3 16 21f 4 4 15 3 6 1f 3 95 2 7bc 36 5 31 9 0 f 0 17 4 2 e 551 6 2 10 3 6 2 1 2 ",
      "4 65 0 a1 6 178 0 3e 3 1fd 3 3e1 6 6e 6 c16b7 0 1f 5f 81 ef "]),
    (.closingParenthesis, CodeRanges.ofLines [
      "29 0 34 0 "]),
    (.carriageReturn, CodeRanges.ofLines [
      "d 0 "]),
    (.emojiBase, CodeRanges.ofLines [
      "261d 0 dc 0 11 3 1cc78 0 3d 2 3 0 3 2 76 1 3 a 16 12 4 0 5 2 2 2 8 0 2 0 19 0 ca 1 5 0 ",
      "16 0 5 1 af 2 4 4 54 0 11 2 a 0 c 0 240 0 3 0 9 7 7 0 a 9 3 2 39 0 3e 1 2 1 2 0 12 2 2 ",
      "c e6 2 2b 8 "]),
    (.emojiModifier, CodeRanges.ofLines [
      "1f3fb 4 "]),
    (.exclamation, CodeRanges.ofLines [
      "21 0 1e 0 587 0 55 0 2 2 b5 0 125 0 714 4 3 0 8ee 1 5 1 13b 1 e1d 1 596 0 5 0 130 0 25 ",
      "1 77ba 0 268 1 559e 1 40 1 aa 0 1e 0 16a5 1 6ac 0 "]),
    (.glue, CodeRanges.ofLines [
      "a0 0 2af 0 d 6 ba6 0 4 0 6 0 c7 1 834 0 5bf 0 2f 0 20b 0 a 0 1e 0 11401 6 3 2 3ba9 0 "]),
    (.hebrewLetter, CodeRanges.ofLines [
      "5d0 1a 5 3 f52b 0 2 9 2 c 2 4 2 0 2 1 2 1 2 9 "]),
    (.hyphen, CodeRanges.ofLines [
      "2d 0 "]),
    (.ideographic, CodeRanges.ofLines [
      "231a 1 d5 3 20d 3 11 1 3 0 2 2 2 1 1a 2 2d 0 17 0 3e b 5 0 2 2 2 1 4 1 3 0 3 2 9 0 7 4 ",
      "2 1 2 0 3 7 4 1 5b 0 71c 19 2 58 d d5 1b b 8 1 2 1 b 1 d 9 7 4 2 4 3 2 3 0 2 0 2 0 2 0 ",
      "2 18 2 1e 2 0 2 0 2 5 2 5 b 0 3 0 2 0 2 0 2 0 2 18 2 1e 2 0 2 0 2 5 2 5 3 3 5 0 6 2a 2 ",
      "5d 2 53 1d 1e 2 27 9 1b6f 41 5214 2 476 4 36 543a 1ff 331 4 11 1 3 6 2 0 7 0 7 7 2 0 3 ",
      "0 97 1 3 1 3 1 2 0 2 a 3 2 2 1a 2 0 2 1c 2 0 2 0 8 0 b 2c 3 1e 4 5 3 5 3 5 3 2 6 2 1f61 ",
      "a 50b1 17f7 9 2ff 201 8 22f8 122 4e 18b 3d05 ff e 2 5e 2 3e 38 1b 184 2 15 3 16 3 4 2 4 ",
      "4 1 2 1 4 2d 6 41 3 1 c 14 14 2 2 3 4 0 4 6 2 0 2 d 2 0 2 0 2 4 2 3 2 0 3 4c 8 f f c 19 ",
      "29 3 3 2 14 2 3 3 3c 9 17 7 4a 4 2 36 22 2 f 4 8 2 a 2 32 75 b 56 2a d 3 39 7 b 5 29 7 ",
      "1f 51 e 1 2 7 9 5 2 8 b 1 4 37 2 3c 3 0 3 0 2 10 4 0 e 21 55 6e 4 29 a 6 101 3fd 3 fffd ",
      "3 fffd "]),
    (.inseparable, CodeRanges.ofLines [
      "2024 2 2c9 0 db2a 0 cdd 0 "]),
    (.infixSeparator, CodeRanges.ofLines [
      "2c 0 2 0 c 1 343 0 20b 0 83 1 1eb 0 184c 0 ddcc 0 3 1 "]),
    (.hangulLeading, CodeRanges.ofLines [
      "1100 5f 9801 1c "]),
    (.hangulTrailing, CodeRanges.ofLines [
      "11a8 57 c5cc 30 "]),
    (.hangulVowel, CodeRanges.ofLines [
      "1160 47 c609 16 "]),
    (.lineFeed, CodeRanges.ofLines [
      "a 0 "]),
    (.nextLine, CodeRanges.ofLines [
      "85 0 "]),
    (.nonStarter, CodeRanges.ofLines [
      "17d6 0 866 1 a 2 fbc 0 17 0 1f 1 5 0 2 0 2 0 2 0 2 0 1a 0 20 0 2 0 2 0 7 0 7 1 5 3 2 1 ",
      "2 0 2 0 2 0 2 0 1a 0 20 0 2 0 2 0 7 0 7 1 5 3 f2 f 6e16 0 5e3f 1 c5 1 4a 0 2 9 2e 1 ",
      "7041 3 414f 0 1e 2 3 0 f 3 4512 2 "]),
    (.numeric, CodeRanges.ofLines [
      "30 9 627 9 2 1 84 9 c7 9 19d 9 77 9 77 9 77 9 77 9 77 9 77 9 77 9 77 9 77 9 61 9 77 9 ",
      "47 9 117 9 47 9 747 9 27 9 12d 9 81 9 a7 9 7 9 b7 9 57 9 87 9 7 9 89c7 9 2a7 9 27 9 c7 ",
      "9 17 9 57 9 197 9 58a7 9 887 9 32d 9 81 9 3d 9 91 9 117 9 157 9 77 9 177 9 67 9 67 9 ",
      "1a7 9 67 9 2f7 9 f7 9 47 9 1a7 9 4b07 9 57 9 87 9 6c75 31 941 9 1a7 9 1f7 9 457 9 1297 ",
      "9 "]),
    (.opening, CodeRanges.ofLines [
      "28 0 33 0 20 0 26 0 1e 0 e7b 0 2 0 75f 0 97f 0 4 0 27 0 38 0 10 0 27b 0 2 0 45e 0 2 0 2 ",
      "0 2 0 2 0 2 0 2 0 51 0 21 0 2 0 2 0 2 0 2 0 195 0 2 0 2 0 2 0 2 0 2 0 2 0 2 0 2 0 2 0 2 ",
      "0 41 0 2 0 22 0 41c 0 a 0 2 0 2 0 2 0 1a 0 13 0 2 0 2 0 2 0 cee4 0 3519 2 2c 0 2 0 f1 0 ",
      "be 0 5 0 2 0 1190 0 a390 1 "]),
    (.wideOpening, CodeRanges.ofLines [
      "2329 0 cdf 0 2 0 2 0 2 0 2 0 4 0 2 0 2 0 2 0 3 0 cdfa 0 1e 0 2 0 2 0 2 0 2 0 2 0 2 0 2 ",
      "0 4 0 12 0 2 0 2 0 ab 0 33 0 20 0 4 0 3 0 "]),
    (.postfixNumeric, CodeRanges.ofLines [
      "25 0 7d 0 e 0 559 2 5f 0 388 1 6 0 380 0 12b7 7 20 0 50 0 f 0 5 0 3 0 2 0 43 0 6 0 872f ",
      "0 55c4 0 6e 0 9b 0 db 0 1ffd 3 cccc 0 4 0 "]),
    (.prefixNumeric, CodeRanges.ofLines [
      "24 0 7 0 31 0 47 2 c 0 4de 0 26f 1 1fc 0 f6 0 108 0 246 0 99c 0 8c5 6 2 d 2 3 2 1 2 0 2 ",
      "e 47 0 fc 1 dc56 0 9b 0 dd 0 4 1 e319 0 "]),
    (.quotation, CodeRanges.ofLines [
      "22 0 5 0 84 0 10 0 1f5d 1 2 2 2 0 1a 1 721 5 6a0 d f 1 3 1 1c855 2 "]),
    (.regionalIndicator, CodeRanges.ofLines [
      "1f1e6 19 "]),
    (.space, CodeRanges.ofLines [
      "20 0 "]),
    (.slash, CodeRanges.ofLines [
      "2f 0 "]),
    (.wordJoiner, CodeRanges.ofLines [
      "2060 0 de9f 0 "]),
    (.zeroWidthSpace, CodeRanges.ofLines [
      "200b 0 "]),
    (.joiner, CodeRanges.ofLines [
      "200d 0 "])]

/-- The class of a character that is no Hangul syllable. -/
def ofTable (c : Char) : LineBreakClass :=
  match table.find? fun row => row.2.holdsChar c with
  | some (found, _) => found
  | none => .alphabetic

/-- The class of a character. Of the Hangul syllables every 28th has no trailing consonant. -/
def ofChar (c : Char) : LineBreakClass :=
  if c.isAlpha then .alphabetic
  else if 0xac00 ≤ c.toNat ∧ c.toNat ≤ 0xd7a3 then
    if (c.toNat - 0xac00) % 28 = 0 then .hangulLv else .hangulLvt
  else ofTable c

end LineBreakClass

/-- Ranges of code points that are kept free for pictographs. -/
def futurePictographRanges : CodeRanges := CodeRanges.ofLines [
  "1f02c 3 65 b 10 1 10 0 10 0 26 9 af 37 1e c 2d 3 a 6 3 d 7 99 3d9 3 12 2 e 2 78 3 60 5 ",
  "d 3 2 e d 3 39 7 b 5 29 7 1f 1 3 4d 155 b f 1 e 2 a 6 2f 0 8 7 f 3 a 6 a 6 101 3fd "
]

end BundleFinish.Text
