import BundleFinish.Text.CodeRanges

/-! # General categories

Every character has one general category. Categories are found under their short and their long
name, in small letters and without separators. -/

namespace BundleFinish.Pattern.Tables

/-- The general categories with their names. -/
def categories : List (List String × CodeRanges) := [
  (["lu", "uppercaseletter"], CodeRanges.ofLines [
    "41 19 66 16 2 6 22 0 2 0 2 0 2 0 2 0 2 0 2 0 2 0 2 0 2 0 2 0 2 0 2 0 2 0 2 0 2 0 2 0 2 ",
    "0 2 0 2 0 2 0 2 0 2 0 2 0 2 0 2 0 2 0 2 0 3 0 2 0 2 0 2 0 2 0 2 0 2 0 2 0 3 0 2 0 2 0 2 ",
    "0 2 0 2 0 2 0 2 0 2 0 2 0 2 0 2 0 2 0 2 0 2 0 2 0 2 0 2 0 2 0 2 0 2 0 2 0 2 0 2 1 2 0 2 ",
    "0 4 1 2 0 2 1 2 2 3 3 2 1 2 2 4 1 2 1 2 0 2 0 2 1 2 0 3 0 2 1 2 2 2 0 2 1 4 0 8 0 3 0 3 ",
    "0 3 0 2 0 2 0 2 0 2 0 2 0 2 0 2 0 3 0 2 0 2 0 2 0 2 0 2 0 2 0 2 0 2 0 3 0 3 0 2 2 2 0 2 ",
    "0 2 0 2 0 2 0 2 0 2 0 2 0 2 0 2 0 2 0 2 0 2 0 2 0 2 0 2 0 2 0 2 0 2 0 2 0 2 0 2 0 2 0 2 ",
    "0 2 0 2 0 2 0 2 0 2 0 8 1 2 1 3 0 2 3 2 0 2 0 2 0 2 0 122 0 2 0 4 0 9 0 7 0 2 2 2 0 2 1 ",
    "2 10 2 8 24 0 3 2 4 0 2 0 2 0 2 0 2 0 2 0 2 0 2 0 2 0 2 0 2 0 2 0 6 0 3 0 2 1 3 32 31 0 ",
    "2 0 2 0 2 0 2 0 2 0 2 0 2 0 2 0 2 0 2 0 2 0 2 0 2 0 2 0 2 0 2 0 a 0 2 0 2 0 2 0 2 0 2 0 ",
    "2 0 2 0 2 0 2 0 2 0 2 0 2 0 2 0 2 0 2 0 2 0 2 0 2 0 2 0 2 0 2 0 2 0 2 0 2 0 2 0 2 0 2 1 ",
    "2 0 2 0 2 0 2 0 2 0 2 0 3 0 2 0 2 0 2 0 2 0 2 0 2 0 2 0 2 0 2 0 2 0 2 0 2 0 2 0 2 0 2 0 ",
    "2 0 2 0 2 0 2 0 2 0 2 0 2 0 2 0 2 0 2 0 2 0 2 0 2 0 2 0 2 0 2 0 2 0 2 0 2 0 2 0 2 0 2 0 ",
    "2 0 2 0 2 0 2 0 2 0 2 0 2 0 2 0 2 0 2 0 3 25 b4a 25 2 0 6 0 2d3 55 89b 2a 3 2 141 0 2 0 ",
    "2 0 2 0 2 0 2 0 2 0 2 0 2 0 2 0 2 0 2 0 2 0 2 0 2 0 2 0 2 0 2 0 2 0 2 0 2 0 2 0 2 0 2 0 ",
    "2 0 2 0 2 0 2 0 2 0 2 0 2 0 2 0 2 0 2 0 2 0 2 0 2 0 2 0 2 0 2 0 2 0 2 0 2 0 2 0 2 0 2 0 ",
    "2 0 2 0 2 0 2 0 2 0 2 0 2 0 2 0 2 0 2 0 2 0 2 0 2 0 2 0 2 0 2 0 2 0 2 0 2 0 2 0 2 0 2 0 ",
    "2 0 2 0 2 0 2 0 2 0 2 0 2 0 a 0 2 0 2 0 2 0 2 0 2 0 2 0 2 0 2 0 2 0 2 0 2 0 2 0 2 0 2 0 ",
    "2 0 2 0 2 0 2 0 2 0 2 0 2 0 2 0 2 0 2 0 2 0 2 0 2 0 2 0 2 0 2 0 2 0 2 0 2 0 2 0 2 0 2 0 ",
    "2 0 2 0 2 0 2 0 2 0 2 0 2 0 2 0 2 0 2 0 2 0 2 0 a 7 9 5 b 7 9 7 9 5 c 0 2 0 2 0 2 0 9 7 ",
    "49 3 d 3 d 3 d 4 c 3 107 0 5 0 4 2 3 2 3 0 4 4 7 0 2 0 2 0 2 3 3 3 b 1 6 0 3e 0 a7d 2f ",
    "31 0 2 2 3 0 2 0 2 0 2 3 2 0 3 0 9 2 2 0 2 0 2 0 2 0 2 0 2 0 2 0 2 0 2 0 2 0 2 0 2 0 2 ",
    "0 2 0 2 0 2 0 2 0 2 0 2 0 2 0 2 0 2 0 2 0 2 0 2 0 2 0 2 0 2 0 2 0 2 0 2 0 2 0 2 0 2 0 2 ",
    "0 2 0 2 0 2 0 2 0 2 0 2 0 2 0 2 0 2 0 2 0 2 0 2 0 2 0 2 0 9 0 2 0 5 0 794e 0 2 0 2 0 2 ",
    "0 2 0 2 0 2 0 2 0 2 0 2 0 2 0 2 0 2 0 2 0 2 0 2 0 2 0 2 0 2 0 2 0 2 0 2 0 2 0 14 0 2 0 ",
    "2 0 2 0 2 0 2 0 2 0 2 0 2 0 2 0 2 0 2 0 2 0 2 0 88 0 2 0 2 0 2 0 2 0 2 0 2 0 4 0 2 0 2 ",
    "0 2 0 2 0 2 0 2 0 2 0 2 0 2 0 2 0 2 0 2 0 2 0 2 0 2 0 2 0 2 0 2 0 2 0 2 0 2 0 2 0 2 0 2 ",
    "0 2 0 2 0 2 0 2 0 2 0 2 0 b 0 2 0 2 1 2 0 2 0 2 0 2 0 5 0 2 0 3 0 2 0 4 0 2 0 2 0 2 0 2 ",
    "0 2 0 2 0 2 0 2 0 2 0 2 4 2 4 2 0 2 0 2 0 2 0 2 0 2 0 2 0 2 3 2 0 7 0 6 0 2 0 1d 0 572c ",
    "19 4c6 27 89 23 9d a 2 e 2 6 2 1 6eb 32 bee 1f 5581 1f 65a1 19 1b 19 1b 19 1b 0 2 1 3 0 ",
    "3 1 3 3 2 7 1b 19 1b 1 2 3 3 7 2 6 1c 1 2 3 2 4 2 0 4 6 1c 19 1b 19 1b 19 1b 19 1b 19 ",
    "1b 19 1f 18 22 18 22 18 22 18 22 18 22 0 1136 21 "]),
  (["ll", "lowercaseletter"], CodeRanges.ofLines [
    "61 19 3b 0 2a 17 2 7 2 0 2 0 2 0 2 0 2 0 2 0 2 0 2 0 2 0 2 0 2 0 2 0 2 0 2 0 2 0 2 0 2 ",
    "0 2 0 2 0 2 0 2 0 2 0 2 0 2 0 2 0 2 0 2 0 2 1 2 0 2 0 2 0 2 0 2 0 2 0 2 0 2 1 2 0 2 0 2 ",
    "0 2 0 2 0 2 0 2 0 2 0 2 0 2 0 2 0 2 0 2 0 2 0 2 0 2 0 2 0 2 0 2 0 2 0 2 0 2 0 2 0 3 0 2 ",
    "0 2 2 3 0 2 0 3 0 4 1 5 0 3 0 4 2 3 0 3 0 2 0 2 0 3 0 2 1 2 0 3 0 4 0 2 0 3 1 3 2 7 0 3 ",
    "0 3 0 2 0 2 0 2 0 2 0 2 0 2 0 2 0 2 1 2 0 2 0 2 0 2 0 2 0 2 0 2 0 2 0 2 1 3 0 2 0 4 0 2 ",
    "0 2 0 2 0 2 0 2 0 2 0 2 0 2 0 2 0 2 0 2 0 2 0 2 0 2 0 2 0 2 0 2 0 2 0 2 0 2 0 2 0 2 0 2 ",
    "0 2 0 2 0 2 0 2 0 2 0 2 6 3 0 3 1 2 0 5 0 2 0 2 0 2 0 2 44 2 1a c2 0 2 0 4 0 4 2 13 0 ",
    "1c 22 2 1 4 2 2 0 2 0 2 0 2 0 2 0 2 0 2 0 2 0 2 0 2 0 2 0 2 4 2 0 3 0 3 1 34 2f 2 0 2 0 ",
    "2 0 2 0 2 0 2 0 2 0 2 0 2 0 2 0 2 0 2 0 2 0 2 0 2 0 2 0 2 0 a 0 2 0 2 0 2 0 2 0 2 0 2 0 ",
    "2 0 2 0 2 0 2 0 2 0 2 0 2 0 2 0 2 0 2 0 2 0 2 0 2 0 2 0 2 0 2 0 2 0 2 0 2 0 2 0 3 0 2 0 ",
    "2 0 2 0 2 0 2 0 2 1 2 0 2 0 2 0 2 0 2 0 2 0 2 0 2 0 2 0 2 0 2 0 2 0 2 0 2 0 2 0 2 0 2 0 ",
    "2 0 2 0 2 0 2 0 2 0 2 0 2 0 2 0 2 0 2 0 2 0 2 0 2 0 2 0 2 0 2 0 2 0 2 0 2 0 2 0 2 0 2 0 ",
    "2 0 2 0 2 0 2 0 2 0 2 0 2 0 2 0 2 0 31 28 b48 2a 3 2 2f9 5 883 8 78 2b 40 c 2 21 67 0 2 ",
    "0 2 0 2 0 2 0 2 0 2 0 2 0 2 0 2 0 2 0 2 0 2 0 2 0 2 0 2 0 2 0 2 0 2 0 2 0 2 0 2 0 2 0 2 ",
    "0 2 0 2 0 2 0 2 0 2 0 2 0 2 0 2 0 2 0 2 0 2 0 2 0 2 0 2 0 2 0 2 0 2 0 2 0 2 0 2 0 2 0 2 ",
    "0 2 0 2 0 2 0 2 0 2 0 2 0 2 0 2 0 2 0 2 0 2 0 2 0 2 0 2 0 2 0 2 0 2 0 2 0 2 0 2 0 2 0 2 ",
    "0 2 0 2 0 2 0 2 0 2 0 2 0 2 8 2 0 2 0 2 0 2 0 2 0 2 0 2 0 2 0 2 0 2 0 2 0 2 0 2 0 2 0 2 ",
    "0 2 0 2 0 2 0 2 0 2 0 2 0 2 0 2 0 2 0 2 0 2 0 2 0 2 0 2 0 2 0 2 0 2 0 2 0 2 0 2 0 2 0 2 ",
    "0 2 0 2 0 2 0 2 0 2 0 2 0 2 0 2 0 2 0 2 0 2 0 2 8 9 5 b 7 9 7 9 5 b 7 9 7 9 d 3 7 9 7 9 ",
    "7 9 4 2 1 7 0 4 2 2 1 9 3 3 1 9 7 b 2 2 1 113 0 4 1 4 0 1c 0 5 0 5 0 3 1 9 3 5 0 36 0 ",
    "aac 2f 2 0 4 1 2 0 2 0 2 0 5 0 2 1 2 5 6 0 2 0 2 0 2 0 2 0 2 0 2 0 2 0 2 0 2 0 2 0 2 0 ",
    "2 0 2 0 2 0 2 0 2 0 2 0 2 0 2 0 2 0 2 0 2 0 2 0 2 0 2 0 2 0 2 0 2 0 2 0 2 0 2 0 2 0 2 0 ",
    "2 0 2 0 2 0 2 0 2 0 2 0 2 0 2 0 2 0 2 0 2 0 2 0 2 0 2 0 2 0 2 1 8 0 2 0 5 0 d 25 2 0 6 ",
    "0 7914 0 2 0 2 0 2 0 2 0 2 0 2 0 2 0 2 0 2 0 2 0 2 0 2 0 2 0 2 0 2 0 2 0 2 0 2 0 2 0 2 ",
    "0 2 0 2 0 14 0 2 0 2 0 2 0 2 0 2 0 2 0 2 0 2 0 2 0 2 0 2 0 2 0 2 0 88 0 2 0 2 0 2 0 2 0 ",
    "2 0 2 2 2 0 2 0 2 0 2 0 2 0 2 0 2 0 2 0 2 0 2 0 2 0 2 0 2 0 2 0 2 0 2 0 2 0 2 0 2 0 2 0 ",
    "2 0 2 0 2 0 2 0 2 0 2 0 2 0 2 0 2 0 2 0 2 0 2 7 2 0 2 0 3 0 2 0 2 0 2 0 2 0 5 0 2 0 3 0 ",
    "2 2 2 0 2 0 2 0 2 0 2 0 2 0 2 0 2 0 2 0 2 0 6 0 6 0 2 0 2 0 2 0 2 0 2 0 2 0 2 0 5 0 2 0 ",
    "7 0 2 0 2 0 2 0 2 0 1d 0 4 0 336 2a 6 8 8 4f 4f41 6 d 4 42a 19 4ce 27 89 23 9c a 2 e 2 ",
    "6 2 1 704 32 bce 1f 5581 1f 659b 19 1b 6 2 11 1b 19 1b 3 2 0 2 6 2 a 1b 19 1b 19 1b 19 ",
    "1b 19 1b 19 1b 19 1b 19 1b 19 1b 1b 1d 18 2 5 1b 18 2 5 1b 18 2 5 1b 18 2 5 1b 18 2 5 2 ",
    "0 735 9 2 13 7 5 9f8 21 "]),
  (["lt", "titlecaseletter"], CodeRanges.ofLines [
    "1c5 0 3 0 3 0 27 0 1d96 7 9 7 9 7 d 0 10 0 30 0 "]),
  (["lm", "modifierletter"], CodeRanges.ofLines [
    "2b0 11 5 b f 4 8 0 2 0 86 0 6 0 1df 0 e7 0 a5 1 10e 1 5 0 20 0 a 0 4 0 a1 0 a8 0 4d5 0 ",
    "80 0 236 0 6db 0 6c 0 264 0 1d1 5 af 3e e 0 23 24 2b2 0 e 0 11 c be0 1 f2 0 c0 0 1d6 0 ",
    "2c 4 6 0 62 1 5e 2 6f17 0 4e3 5 10f 0 73 0 1d 1 7a 8 51 0 18 0 6a 2 4 1 1d6 0 17 0 8a 0 ",
    "6d 0 16 1 68 3 a 0 5407 0 2e 1 7e1 5 2 29 2 8 6386 3 450 c 41 1 2 0 400d 3 2 6 2 1 3032 ",
    "3d ca 6 3ae 0 460 0 "]),
  (["lo", "otherletter"], CodeRanges.ofLines [
    "aa 0 10 0 101 0 5 3 d1 0 33c 1a 5 3 2e 1f 2 9 24 1 2 62 2 0 19 1 b 2 3 0 11 0 2 1d 1e ",
    "58 c 0 19 20 16 15 2b 18 8 a 6 17 2 5 12 28 3c 35 4 0 13 0 8 9 11 e 5 7 3 1 3 15 2 6 2 ",
    "0 4 3 4 0 11 0 e 1 2 2 f 1 b 0 9 5 5 1 3 15 2 6 2 1 2 1 2 1 20 3 2 0 14 2 11 8 2 2 2 15 ",
    "2 6 2 1 2 4 4 0 13 0 10 1 18 0 c 7 3 1 3 15 2 6 2 1 2 4 4 0 1f 1 2 2 10 0 12 0 2 5 4 2 ",
    "2 3 4 1 2 0 2 1 4 1 4 2 4 b 17 0 35 7 2 2 2 16 2 f 4 0 1b 2 3 0 3 1 1f 0 5 7 2 2 2 16 2 ",
    "9 2 4 4 0 20 1 2 1 10 1 12 8 2 2 2 28 3 0 11 0 6 2 9 2 19 5 6 11 4 17 2 8 2 0 3 6 3b 2f ",
    "2 1 d 5 3c 1 2 0 2 4 2 17 2 0 2 9 2 1 a 0 3 4 18 3 21 0 40 7 2 23 1c 4 74 2a 15 0 11 5 ",
    "5 3 4 0 4 1 8 2 5 c d 0 72 148 2 3 3 6 2 0 2 3 3 28 2 3 3 20 2 3 3 6 2 0 2 3 3 e 2 38 2 ",
    "3 3 42 26 f 72 26b 3 10 2 19 6 4a 7 7 8 11 e 12 f 11 f c 2 2 10 33 29 0 44 22 2 34 8 4 ",
    "3 21 2 0 6 45 b 1e 32 1d 3 4 c 2b 5 19 37 16 a 34 b1 2e 12 7 37 1d e 1 b 2b 1b 23 2a 2 ",
    "b 1d 72 3 2 5 2 1 4 0 43b 3 bf8 37 19 16 a 6 2 6 2 6 2 6 2 6 2 6 2 6 2 6 228 0 36 0 5 ",
    "55 9 0 2 59 5 0 6 2a 2 5d 12 1f 31 f 201 19bf 41 5214 2 476 44 27 9 10b 5 f b 1 43 0 32 ",
    "45 aa 0 68 0 4 6 2 2 2 3 2 16 1e 33 f 31 3f 5 4 0 2 1 c 1b b 16 1a 1c 8 2e 2e 4 3 8 b 4 ",
    "2 28 18 2 2 7 15 f 2 5 4 0 4 31 2 0 4 1 3 4 3 0 2 0 19 1 4 a 8 0 f 5 3 5 3 5 a 6 2 6 92 ",
    "22 1e 2ba3 d 16 5 30 2105 16d 3 69 44 0 2 9 2 c 2 4 2 0 2 1 2 1 2 6b 22 16a 13 3f 3 35 ",
    "29 b 75 4 2 86 6a 9 2 2c 3 1e 4 5 3 5 3 5 3 2 24 b 2 19 2 12 2 1 2 e 3 d 23 7a 186 1c 4 ",
    "30 30 1f e 13 2 7 7 25 b 1d 3 23 5 7 81 4d 63 27 9 33 9d 136 a 15 b 7 99 5 3 0 2 2b 2 1 ",
    "4 0 3 16 b 16 a 1e 42 12 2 1 b 15 b 19 47 37 7 1 41 0 10 3 2 2 2 1c 2b 1c 4 1c 24 7 2 ",
    "1b 1c 35 b 15 b 12 e 11 6f 48 b8 23 15d 29 7 1 4f 1c b 0 9 15 2b 11 2f 14 1c 16 d 34 3a ",
    "1 3 0 e 2c 21 18 1b 23 1e 0 3 0 9 22 4 0 d 2f f 3 16 0 2 0 24 11 2 18 14 1 40 6 2 0 2 3 ",
    "2 e 2 9 8 2e 27 7 3 1 3 15 2 6 2 1 2 4 4 0 13 0 d 4 9f 34 13 3 15 2 1f 2f 15 1 2 0 b9 ",
    "2e 2a 3 25 2f 15 0 3c 2a e 0 48 1a 26 6 ba 2b d4 7 3 0 3 7 2 1 2 17 10 0 2 0 5f 7 3 26 ",
    "11 0 2 0 1d 0 b 27 8 0 16 0 c 2d 14 0 13 48 108 8 2 24 12 0 32 1d 71 6 2 1 2 25 16 0 1a ",
    "5 2 1 2 1f f 0 148 12 10 0 2 c 2 21 7d 0 50 399 e7 c3 a4d 60 10 42f 12 5 fba 246 21ba ",
    "238 8 1e 12 4e 12 1d 13 2f 34 14 6 12 371 4a 6 0 b0 17f7 9 4d5 2b 8 22f8 122 10 0 1e 2 ",
    "3 0 f 3 9 18b 905 6a 6 c 4 8 8 9 2271 0 1f6 2c 22 0 142 1d 13 2b 1e5 1a 2f6 6 2 3 2 1 2 ",
    "e 2 c4 53c 3 2 1a 2 1 2 0 3 0 2 9 2 3 2 0 2 0 7 0 5 0 2 0 2 0 2 2 2 1 2 0 3 0 2 0 2 0 2 ",
    "0 2 0 2 1 2 0 3 3 2 6 2 3 2 3 2 0 2 9 2 10 6 2 2 4 2 10 1145 a6df 21 1039 7 dd 3 1681 f ",
    "1d30 c20 21d 5e3 134a 6 105f "]),
  (["mn", "nonspacingmark"], CodeRanges.ofLines [
    "300 6f 114 4 10a 2c 2 0 2 1 2 1 2 0 49 a 31 14 11 0 66 6 3 5 3 1 2 3 24 0 1f 1a 5c a 3b ",
    "8 a 0 19 3 2 8 2 2 2 4 2c 2 3d 7 2b 17 2 1f 38 0 2 0 5 7 5 0 4 6 b 1 1e 0 3b 0 5 3 9 0 ",
    "15 1 1b 0 3 1 3a 0 5 1 5 1 3 2 4 0 1f 1 4 0 c 1 3a 0 5 4 2 1 5 0 15 1 17 5 2 0 3b 0 3 0 ",
    "2 3 9 0 8 1 c 1 1f 0 3e 0 d 0 33 0 4 0 38 0 2 2 6 2 2 3 8 1 c 1 1e 0 3b 0 3 0 7 0 6 1 ",
    "15 1 1d 1 3a 1 5 3 9 0 15 1 1e 0 49 0 8 2 2 0 5b 0 3 6 d 7 63 0 3 8 c 6 4a 1 1c 0 2 0 2 ",
    "0 38 d 2 4 2 1 6 a 2 23 a 0 67 3 2 5 2 1 3 1 1a 1 5 2 11 3 e 0 3 1 7 0 10 0 2c0 2 3b3 2 ",
    "1e 1 1f 1 1f 1 41 1 2 6 9 0 3 a a 0 2e 2 2 0 76 1 23 0 77 2 5 1 a 0 7 2 dc 1 3 0 3b 0 2 ",
    "6 2 0 2 0 3 7 7 9 3 0 31 d 2 f 32 3 31 0 2 4 2 0 6 0 29 8 d 1 21 3 3 1 2 2 39 0 2 1 4 0 ",
    "2 2 3b 7 3 1 99 2 2 c 2 6 5 0 7 0 4 1 c7 3f 2d1 c 5 0 4 b bff 2 8e 0 61 1f 22b 3 6c 1 ",
    "75d5 0 5 9 21 1 51 1 111 0 4 0 5 0 1a 1 6 0 98 1 1b 11 e 0 27 7 1a a 2f 2 31 0 3 3 3 1 ",
    "28 0 44 5 3 1 3 1 d 0 9 0 30 0 34 0 2 2 3 1 6 1 2 0 2b 1 9 0 ef 0 3 0 5 0 4f31 0 2e2 f ",
    "11 f 3ce 0 e3 0 96 4 687 2 2 1 6 3 29 2 5 0 a6 1 23e 3 184 1 51 2 47 a 32 3 7c 0 37 e ",
    "2a 0 3 1 b 2 32 3 3 1 8 0 3e 2 25 4 2 7 3f 0 d 1 35 8 b 3 3 0 60 2 3 0 2 1 7 0 3 0 9e 0 ",
    "4 7 16 1 3a 1 4 0 26 6 4 4 c4 7 3 2 2 0 18 0 55 5 2 0 5 1 2 1 ef 3 7 1 2 1 1c 1 56 7 3 ",
    "0 2 1 6b 0 2 0 3 5 2 0 66 2 3 3 2 4 104 8 2 1 101 1 2 0 5 0 91 3 3 1 5 0 21 9 29 5 3 3 ",
    "9 0 a 5 3 2 2f c 2 1 197 6 2 5 2 0 53 15 3 6 2 1 2 1 7b 5 4 0 2 1 2 6 2 0 49 1 4 0 2 0 ",
    "15c 1 c 1 35 4 6 0 2 0 14fe 0 7 e 369b 4 3c 6 419 0 40 3 52 0 4cb9 1 1262 2d 3 16 221 2 ",
    "12 7 3 6 1f 3 95 2 7bc 36 5 31 9 0 f 0 17 4 2 e 551 6 2 10 3 6 2 1 2 4 65 0 a1 6 178 0 ",
    "3e 3 1fd 3 3e1 6 6e 6 c17b6 ef "]),
  (["mc", "spacingmark"], CodeRanges.ofLines [
    "903 0 38 0 3 2 9 3 2 1 33 1 3b 2 7 1 3 1 b 0 2c 0 3b 2 43 0 3b 2 9 0 2 1 36 1 3b 0 2 0 ",
    "7 1 3 1 b 0 67 1 2 1 4 2 2 2 b 0 2a 2 3e 3 3e 1 3b 0 2 4 3 1 2 1 a 1 1d 0 f 1 3b 2 6 2 ",
    "2 2 b 0 2b 1 4c 2 7 7 13 1 14b 1 40 0 ac 1 5 0 7 0 3 1 1a 1 b 2 3 6 16 1 3 5 3 0 b 2 ",
    "679 0 1f 0 82 0 8 7 2 1 15b 3 3 2 5 1 2 5 e1 1 3b 0 2 0 a 0 2 1 9 5 92 0 31 0 6 0 2 4 2 ",
    "1 3e 0 1f 0 5 1 3 0 3d 0 3 2 2 0 4 1 31 7 9 1 ac 0 16 0 1337 1 77f4 1 3 0 59 1 33 f 8f ",
    "1 30 0 31 1 5 1 3 2 6f 1 3 1 19 0 2e 0 2 0 6e 0 3 1 6 0 ee 1 2 1 2 1 2 0 6414 0 2 0 80 ",
    "0 2e 2 5 1 74 0 19 1 3c 0 31 2 a 1 e 0 5e 2 4 1 2 0 ab 2 20 1 3b 1 2 3 3 1 3 2 a 0 b 1 ",
    "d2 2 9 1 4 0 6b 2 7 0 2 3 3 0 ee 2 7 3 3 0 72 2 9 1 2 0 6e 0 2 1 7 0 6a 1 5 0 106 2 a 0 ",
    "f8 5 2 1 5 0 3 0 2 0 8f 2 9 3 5 0 55 0 1e 1 3f 0 198 0 f 0 6b 0 8 0 3 0 d6 4 5 1 2 0 ",
    "15f 1 d 0 31 1 9 1 2 0 5010 36 69 1 6174 1 7 5 "]),
  (["me", "enclosingmark"], CodeRanges.ofLines [
    "488 1 1635 0 61f 3 2 2 858c 2 "]),
  (["nd", "decimalnumber", "digit"], CodeRanges.ofLines [
    "30 9 627 9 87 9 c7 9 19d 9 77 9 77 9 77 9 77 9 77 9 77 9 77 9 77 9 77 9 61 9 77 9 47 9 ",
    "117 9 47 9 747 9 27 9 12d 9 81 9 a7 9 7 9 b7 9 57 9 87 9 7 9 89c7 9 2a7 9 27 9 c7 9 17 ",
    "9 57 9 197 9 5317 9 587 9 887 9 32d 9 81 9 3d 9 91 9 117 9 157 9 77 9 177 9 67 9 67 9 ",
    "1a7 9 67 9 2f7 9 f7 9 47 9 1a7 9 4b07 9 57 9 87 9 6c75 31 941 9 1a7 9 1f7 9 457 9 1297 ",
    "9 "]),
  (["nl", "letternumber"], CodeRanges.ofLines [
    "16ee 2 a70 22 3 3 e7f 0 1a 8 f 2 76ac 9 5a51 34 1cd 0 9 0 87 4 202b 6e "]),
  (["no", "othernumber"], CodeRanges.ofLines [
    "b2 1 6 0 3 2 936 5 179 5 79 2 86 6 da 6 12 8 1b2 9 436 13 474 9 1e1 0 696 0 4 5 7 9 c7 ",
    "f 2a 0 2d7 3b 4f 15 277 1d 56a 0 495 3 8b 9 1f 7 2 e 21 9 28 e 7571 5 58d2 2c 42 3 12 1 ",
    "156 1a 25 3 535 7 1a 6 28 8 4c 4 17 5 a1 1 3 f 3 2d 41 8 35 1 1f 2 4c 4 69 7 19 7 2a 6 ",
    "14b 5 161 1e 9f 9 2b 3 71 6 87 13 17c 13 546 1 1af 8 368 12 354 14 4b87 6 31f 16 642a ",
    "13 d 13 6d 18 154f 8 3a2 3a 2 2 2 3 4d 2c 2 e 3c3 c "]),
  (["pc", "connectorpunctuation"], CodeRanges.ofLines [
    "5f 0 1fe0 1 14 0 dddf 1 19 2 f0 0 "]),
  (["pd", "dashpunctuation"], CodeRanges.ofLines [
    "2d 0 55d 0 34 0 e42 0 406 0 80a 5 e02 0 3 0 20 1 5 0 1d 0 1bf 0 14 0 70 0 cd91 1 26 0 b ",
    "0 aa 0 fa0 0 "]),
  (["ps", "openpunctuation"], CodeRanges.ofLines [
    "28 0 33 0 20 0 ebf 0 2 0 75f 0 97f 0 4 0 27 0 38 0 10 0 27b 0 2 0 1f 0 43f 0 2 0 2 0 2 ",
    "0 2 0 2 0 2 0 51 0 21 0 2 0 2 0 2 0 2 0 195 0 2 0 2 0 2 0 2 0 2 0 2 0 2 0 2 0 2 0 2 0 ",
    "41 0 2 0 22 0 426 0 2 0 2 0 2 0 1a 0 13 0 2 0 2 0 2 0 1ad 0 2 0 2 0 2 0 2 0 4 0 2 0 2 0 ",
    "2 0 3 0 cd22 0 d8 0 1e 0 2 0 2 0 2 0 2 0 2 0 2 0 2 0 4 0 12 0 2 0 2 0 ab 0 33 0 20 0 4 ",
    "0 3 0 "]),
  (["pe", "closepunctuation"], CodeRanges.ofLines [
    "29 0 34 0 20 0 ebe 0 2 0 75f 0 9aa 0 38 0 10 0 27b 0 2 0 1f 0 43f 0 2 0 2 0 2 0 2 0 2 0 ",
    "2 0 51 0 21 0 2 0 2 0 2 0 2 0 195 0 2 0 2 0 2 0 2 0 2 0 2 0 2 0 2 0 2 0 2 0 41 0 2 0 22 ",
    "0 426 0 2 0 2 0 2 0 2d 0 2 0 2 0 2 0 1ad 0 2 0 2 0 2 0 2 0 4 0 2 0 2 0 2 0 3 1 cd1f 0 ",
    "da 0 1e 0 2 0 2 0 2 0 2 0 2 0 2 0 2 0 4 0 12 0 2 0 2 0 ab 0 34 0 20 0 3 0 3 0 "]),
  (["pi", "initialpunctuation"], CodeRanges.ofLines [
    "ab 0 1f6d 0 3 1 3 0 1a 0 dc9 0 2 0 5 0 3 0 10 0 4 0 "]),
  (["pf", "finalpunctuation"], CodeRanges.ofLines [
    "bb 0 1f5e 0 4 0 1d 0 dc9 0 2 0 5 0 3 0 10 0 4 0 "]),
  (["po", "otherpunctuation"], CodeRanges.ofLines [
    "21 2 2 2 3 0 2 0 2 1 b 1 4 1 1c 0 45 0 6 0 f 1 8 0 2bf 0 9 0 1d3 5 2a 0 37 0 3 0 3 0 2d ",
    "1 15 1 2 1 e 0 2 2 4b 3 67 0 2c d ea 2 37 e 20 0 106 1 b 0 8d 0 79 0 7a 0 187 0 d 0 170 ",
    "0 5b 0 b 1 a9 e 2 0 71 0 4b 4 5 1 70 5 ac 0 265 8 306 0 7d 2 48 1 9e 2 2 2 26 5 2 3 13a ",
    "1 d9 1 81 6 2 5 ad 6 1d 1 7e 3 3c 4 3f 1 41 7 c 0 343 1 9 7 9 8 3 3 3 2 4 a 2 0 2 9 c9b ",
    "3 2 1 71 0 90 1 5 2 3 0 3 8 2 1 2 0 3 1 b 4 2 9 3 3 2 0 2 c 3 2 1ad 2 3a 0 be 0 7403 1 ",
    "10e 2 64 0 b 0 74 5 17d 3 57 1 29 2 2 0 32 1 30 0 62 c 11 1 7d 3 7f 1 11 1 fa 0 5225 6 ",
    "3 0 17 0 15 1 3 3 4 2 2 3 8 2 7 0 2 1 96 2 2 2 3 0 2 0 2 1 b 1 4 1 1c 0 25 0 3 1 19b 2 ",
    "29d 0 31 0 19f 0 2e8 0 c8 0 20 0 111 8 27 0 71 6 43 6 5a 3 3b9 4 2d 3 be 6 6e 1 2 3 7f ",
    "3 31 1 50 3 5 0 e 0 2 2 59 5 6c 0 1a2 4 b 1 2 0 69 0 fb 16 6a 2 1d c 4d 0 83 2 fd 0 109 ",
    "2 9c 0 5d 7 54 2 2 4 5e 9 138 4 2b 1 286 1 4b c b0 0 471 4 b7d 1 3a7c 1 86 0 42 4 9 0 ",
    "353 3 148 0 4cbd 0 1de8 4 ed3 1 "]),
  (["sm", "mathsymbol"], CodeRanges.ofLines [
    "2b 0 11 2 3e 0 2 0 2e 0 5 0 26 0 20 0 2ff 0 210 2 1a3c 0 e 0 28 2 e 2 8c 0 28 4 7 0 45 ",
    "4 6 1 5 0 3 0 3 0 8 0 20 1 3 0 2 0 20 10b 21 1 5b 0 1f 18 29 5 1d6 0 a 0 37 7 70 0 151 ",
    "4 3 1e b f 101 82 17 3e 5 1f 3 101 31 14 3 5 cfdd 0 339 0 2 2 a5 0 11 2 3e 0 2 0 84 0 7 ",
    "3 d6d5 0 1a 0 20 0 1a 0 20 0 1a 0 20 0 1a 0 20 0 1a 0 172d 1 "]),
  (["sc", "currencysymbol"], CodeRanges.ofLines [
    "24 0 7e 3 4ea 0 7c 0 1f3 1 1f3 1 8 0 f6 0 108 0 246 0 99c 0 8c5 20 8778 0 55c4 0 6d 0 ",
    "9b 0 dc 1 4 1 1ff7 3 c31f 0 9b1 0 "]),
  (["sk", "modifiersymbol"], CodeRanges.ofLines [
    "5e 0 2 0 48 0 7 0 5 0 4 0 20a 3 d d 6 6 2 0 2 10 76 0 f 1 503 0 1735 0 2 2 c 2 e 2 e 2 ",
    "e 1 109d 1 7664 16 a 1 68 1 3d1 0 f 1 5047 10 37c 0 2 0 a3 0 f418 4 "]),
  (["so", "othersymbol"], CodeRanges.ofLines [
    "a6 0 3 0 5 0 2 0 3d2 0 10b 1 80 1 cf 0 b 0 14 1 f8 0 204 0 176 0 83 5 2 0 85 0 d0 0 2a ",
    "0 188 2 10 0 2 2 3 5 15 0 2 0 2 0 86 7 2 5 2 1 6 3 c6 1 2f1 9 2d4 0 2d3 0 9e 21 162 9 a ",
    "8 584 1 2 3 2 1 b 0 2 1 7 5 2 0 2 0 2 0 5 0 c 1 f 0 2 1 2 0 3b 1 a 4 3 3 2 1 2 1 2 6 2 ",
    "1e 3 1 2 0 2 1e 10d 7 5 13 3 6 3 50 2 1d 1a 27 7 44 1a a 52 4d 17 b6 2 8 2 35 9 6e 2 f7 ",
    "2d 2b 41 ff 201 2f 16 1 7 26 3 1f 2 68 e6 5 166 1 2f 19 2 58 d d5 1b b 9 0 e 1 d 0 16 1 ",
    "7 1 151 1 5 9 21 23 1d 1e c 1d 9 0 10 1f b 26 10 13f 19c1 3f 5691 36 362 3 b 1 2 0 23e ",
    "2 52c7 f 80 0 2e 2 1e5 0 4 0 5 1 e 1 13a 8 3a 10 3 2 2 c 4 0 30 2c 67b 1 250 0 c77 0 ",
    "896 7 5 10 4b4b 3 6 0 5157 0 12b4 73 3d f5 b 26 3 3b 6 2 17 1 8 1d 5 3c 16 41 4 0 bb 56 ",
    "4aa 1ff 38 3 33 7 2 d 2 1 6c9 0 b5d 0 82 0 2d2 2b 5 63 d e 3 e 2 e 2 24 18 a0 39 1c e ",
    "2b 5 8 8 1 f 5 9b fa 6 2d7 5 10 4 c 4 76 5 5e 7 b 5 0 10 b 5 37 9 9 7 27 9 1d 3 1 4f ",
    "153 d d 3 c 4 8 8 2d 2 6 9 d 5 8 8 8 8 92 2 36 "]),
  (["zs", "spaceseparator"], CodeRanges.ofLines [
    "20 0 80 0 15e0 0 980 a 25 0 30 0 fa1 0 "]),
  (["zl", "lineseparator"], CodeRanges.ofLines [
    "2028 0 "]),
  (["zp", "paragraphseparator"], CodeRanges.ofLines [
    "2029 0 "]),
  (["cc", "control", "cntrl"], CodeRanges.ofLines [
    "0 1f 60 20 "]),
  (["cf", "format"], CodeRanges.ofLines [
    "ad 0 553 5 17 0 c1 0 32 0 181 1 51 0 f2c 0 7fd 4 1b 4 32 4 2 9 de90 0 fa 2 10c2 0 10 0 ",
    "2363 f 8861 3 14d0 7 c2e87 0 1f 5f "]),
  (["co", "privateuse"], CodeRanges.ofLines [
    "e000 18ff e0701 fffd 3 fffd "]),
  (["cn", "unassigned"], CodeRanges.ofLines [
    "378 1 7 3 8 0 2 0 15 0 18e 0 27 1 33 1 4 0 38 7 1c 3 7 a 10f 0 3d 1 66 d 3c 1 32 1 10 0 ",
    "1d 1 2 0 c 4 20 0 3 5 ed 0 9 1 3 1 17 0 8 0 2 2 5 1 a 1 3 1 5 7 2 3 3 0 6 1 1a 1 4 0 7 ",
    "3 3 1 17 0 8 0 3 0 3 0 3 1 2 0 6 3 3 1 4 2 2 6 5 0 2 6 12 9 4 0 a 0 4 0 17 0 8 0 3 0 6 ",
    "1 b 0 4 0 4 1 2 e 5 1 d 6 8 0 4 0 9 1 3 1 17 0 8 0 3 0 6 1 a 1 3 1 4 6 4 3 3 0 6 1 13 9 ",
    "3 0 7 2 4 0 5 2 3 0 2 0 3 2 3 2 4 2 d 3 6 2 4 0 5 1 2 5 2 d 16 4 e 0 4 0 18 0 11 1 a 0 ",
    "4 0 5 6 3 0 4 1 2 1 5 1 b 6 17 0 4 0 18 0 b 0 6 1 a 0 4 0 5 6 3 5 3 0 5 1 b 0 4 b e 0 4 ",
    "0 34 0 4 0 7 3 11 1 1b 0 4 0 13 2 19 0 a 0 2 1 8 2 2 3 7 0 2 0 9 5 b 1 4 b 3b 3 1e 24 3 ",
    "0 2 0 6 0 19 0 2 0 18 1 6 0 2 0 8 0 b 1 5 1f 49 0 25 3 28 0 25 0 10 0 e 24 c7 0 2 4 2 1 ",
    "17a 0 5 1 8 0 2 0 5 1 2a 0 5 1 22 0 5 1 8 0 2 0 5 1 10 0 3a 0 5 1 44 1 21 2 1b 5 57 1 7 ",
    "1 29e 2 5a 6 17 8 19 8 15 b e 0 4 0 3 b 5f 1 b 5 b 5 1b 5 5a 6 2c 4 47 9 20 0 d 3 d 3 2 ",
    "2 2b 1 6 a 2d 3 1b 5 c 2 3f 1 42 0 1e 1 c 5 b 5 f 1 20 30 4e 2 30 0 75 7 3d 2 10 2 3d 6 ",
    "2c 1 c 7 2c 4 217 1 7 1 27 1 7 1 9 0 2 0 2 0 2 0 20 1 36 0 10 0 f 1 7 0 14 1 4 0 a 0 66 ",
    "0 d 1 1c 0 e 2 22 e 22 e 8d 3 298 18 c 14 715 1 21 0 15e 4 2e 0 2 4 2 1 39 6 3 d 19 8 8 ",
    "0 8 0 8 0 8 0 8 0 8 0 8 0 8 0 7f 21 1b 0 5a b d7 19 d 3 41 0 57 1 68 4 2c 0 5f 0 55 b ",
    "30 0 726e 2 38 8 15d 13 b9 7 cc 4 3 0 2 0 6 17 3c 2 b 5 39 7 47 7 d 5 75 a 1f 2 4f 0 c ",
    "3 22 0 38 8 f 1 b 1 68 17 1d 9 7 1 7 1 7 8 8 0 8 0 3d 3 7f 1 b 5 2ba5 b 18 3 32 3 226f ",
    "1 6b 25 8 b 6 4 1b 0 6 0 2 0 3 0 3 0 7e f 1be 1 37 6 2 1f 2b 5 34 0 14 0 5 3 6 0 88 1 2 ",
    "0 bf 2 7 1 7 1 7 1 4 2 8 0 8 9 6 1 d 0 1b 0 14 0 3 0 10 1 f 21 7c 4 4 3 2e 2 59 0 e 2 2 ",
    "2e 2f 81 1e 2 32 e 1d 3 25 8 1f 4 2c 4 1f 0 26 3 f 29 9f 1 b 5 25 3 25 3 29 7 35 a d 0 ",
    "10 0 8 0 3 0 c 0 10 0 8 0 3 42 138 8 17 9 9 17 7 0 2b 0 a 44 7 1 2 0 2d 0 3 2 2 1 18 0 ",
    "49 7 a 2f 14 0 3 4 22 2 1c 4 2 3f 39 3 15 1 33 0 3 4 9 0 4 0 1e 1 4 3 b 6 a 6 41 1f 28 ",
    "3 d 8 37 2 1e 1 1c 4 1b 6 5 b 8 4f 4a 36 34 c 34 6 2f 7 b 125 20 0 2b 0 4 1 3 4a 2c 7 ",
    "2b 15 1b 25 1d 13 18 8 4f 3 25 8 45 9 2 1 1a 6 b 5 36 0 13 7 28 8 61 0 15 a 13 0 30 3d ",
    "8 0 2 0 5 0 10 0 c 5 3c 4 b 5 5 0 9 1 3 1 17 0 8 0 3 0 6 0 b 1 3 1 4 1 2 5 2 4 8 1 8 2 ",
    "6 8a 5d 0 6 1d 49 7 b a5 37 1 27 21 46 a b 5 e 12 3b 5 b 35 1c 1 10 3 18 b8 3d 63 54 b ",
    "9 1 2 1 9 0 3 0 1f 0 3 1 d 8 b 45 9 1 2f 1 c 1a 49 7 54 c 4a 6 b f5 a 0 2e 0 f 9 1e 2 ",
    "21 1 17 0 f 48 8 0 3 0 2d 2 2 0 3 0 a 7 b 5 7 0 3 0 26 0 3 0 7 6 b 135 1a 6 12 0 2a 2 ",
    "1d 55 2 e 33 c 39c 65 70 0 6 a c5 a4b 64 c 457 fa9 248 21b8 23a 6 20 0 b 3 52 0 b 5 1f ",
    "1 7 9 47 9 b 0 8 0 16 4 14 2af 5c 64 4c 3 3a 6 12 3f 6 a 3 d 17f9 7 4d7 29 a 22e6 5 0 8 ",
    "0 3 0 124 e 2 1c 4 1 2 d 5 7 18d 903 6c 4 e 2 a 6 b 1 9 125b 2f 1 18 8 75 3b f7 9 28 1 ",
    "c3 14 47 79 15 b 15 b 58 8 1a 86 56 0 48 0 3 1 2 1 3 1 5 0 d 0 2 0 8 0 42 0 5 1 9 0 8 0 ",
    "1d 0 5 0 6 0 2 2 8 0 155 1 125 1 2bf e 6 0 10 44f 20 5 7 d4 8 0 12 1 8 0 3 0 6 4 3f 20 ",
    "2 6f 2e 2 f 1 b 3 3 13f 20 10 3b 4 2 1cf 2b 2e5 8 0 5 0 3 0 10 0 c6 1 11 28 4d 3 b 3 3 ",
    "310 45 4b 3e c1 5 0 1c 0 3 0 2 1 2 0 b 0 5 0 2 0 2 5 2 3 2 0 2 0 2 0 4 0 3 0 2 1 2 0 2 ",
    "0 2 0 2 0 2 0 3 0 2 1 5 0 8 0 5 0 5 0 2 0 b 0 12 4 4 0 6 0 12 33 3 10d 2d 3 65 b 10 1 ",
    "10 0 10 0 26 9 af 37 1e c 2d 3 a 6 3 d 7 99 3d9 3 12 2 e 2 78 3 60 5 d 3 2 e d 3 39 7 b ",
    "5 29 7 1f 1 3 4d 155 b f 1 e 2 a 6 2f 0 8 7 f 3 a 6 a 6 94 0 38 24 b 405 a6e1 1f 103b 5 ",
    "df 1 1683 d 1d32 c1e 21f 5e1 134c 4 1061 adc50 2 1d 61 7f f1 fe0f ffff 1 ffff 1 "])]

end BundleFinish.Pattern.Tables
