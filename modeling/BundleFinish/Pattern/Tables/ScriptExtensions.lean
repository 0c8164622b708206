import BundleFinish.Text.CodeRanges

/-! # Script extensions

The scripts that a character is used in. -/

namespace BundleFinish.Pattern.Tables

/-- The scripts with their names and the characters used in them. -/
def scriptExtensions : List (List String × CodeRanges) := [
  (["adlm", "adlam"], CodeRanges.ofLines [
    "61f 0 21 0 1e2c0 4b 5 9 5 1 "]),
  (["aghb", "caucasianalbanian"], CodeRanges.ofLines [
    "10530 33 c 0 "]),
  (["ahom"], CodeRanges.ofLines [
    "11700 1a 3 e 5 16 "]),
  (["arab", "arabic"], CodeRanges.ofLines [
    "600 4 2 d6 2 21 51 2f f1 1e 2 1 7 49 2 1c f251 72 11 1bc 3 35 8 0 21 f 71 4 2 86 3e4 1b ",
    "b65 1e 7f 2 df01 3 2 1a 2 1 2 0 3 0 2 9 2 3 2 0 2 0 7 0 5 0 2 0 2 0 2 2 2 1 2 0 3 0 2 0 ",
    "2 0 2 0 2 0 2 1 2 0 3 3 2 6 2 3 2 3 2 0 2 9 2 10 6 2 2 4 2 10 35 1 "]),
  (["armi", "imperialaramaic"], CodeRanges.ofLines [
    "10840 15 2 8 "]),
  (["armn", "armenian"], CodeRanges.ofLines [
    "531 25 3 31 3 2 f584 4 "]),
  (["avst", "avestan"], CodeRanges.ofLines [
    "10b00 35 4 6 "]),
  (["bali", "balinese"], CodeRanges.ofLines [
    "1b00 4c 4 2e "]),
  (["bamu", "bamum"], CodeRanges.ofLines [
    "a6a0 57 c109 238 "]),
  (["bass", "bassavah"], CodeRanges.ofLines [
    "16ad0 1d 3 5 "]),
  (["batk", "batak"], CodeRanges.ofLines [
    "1bc0 33 9 3 "]),
  (["beng", "bengali"], CodeRanges.ofLines [
    "951 1 12 1 1b 3 2 7 3 1 3 15 2 6 2 0 4 3 3 8 3 1 3 3 9 0 5 1 2 4 3 18 12d2 0 2 0 3 1 2 ",
    "0 9 0 9 0 3 0 5 0 3 2 8bfa 0 "]),
  (["bhks", "bhaiksuki"], CodeRanges.ofLines [
    "11c00 8 2 2c 2 d b 1c "]),
  (["bopo", "bopomofo"], CodeRanges.ofLines [
    "2ea 1 2d16 2 5 9 2 c b 3 3 0 7 0 c4 0 a 2a 71 1f cc86 1 11b 4 "]),
  (["brah", "brahmi"], CodeRanges.ofLines [
    "11000 4d 5 23 a 0 "]),
  (["brai", "braille"], CodeRanges.ofLines [
    "2800 ff "]),
  (["bugi", "buginese"], CodeRanges.ofLines [
    "1a00 1b 3 1 8fb0 0 "]),
  (["buhd", "buhid"], CodeRanges.ofLines [
    "1735 1 a 13 "]),
  (["cakm", "chakma"], CodeRanges.ofLines [
    "9e6 9 651 9 100b7 34 2 11 "]),
  (["cans", "canadianaboriginal"], CodeRanges.ofLines [
    "1400 27f 231 45 101bb f "]),
  (["cari", "carian"], CodeRanges.ofLines [
    "102a0 30 "]),
  (["cham"], CodeRanges.ofLines [
    "aa00 36 a d 3 9 3 3 "]),
  (["cher", "cherokee"], CodeRanges.ofLines [
    "13a0 55 3 5 9773 4f "]),
  (["chrs", "chorasmian"], CodeRanges.ofLines [
    "10fb0 1b "]),
  (["copt", "coptic", "qaac"], CodeRanges.ofLines [
    "3e2 d 2891 73 6 6 d5e1 1b "]),
  (["cpmn", "cyprominoan"], CodeRanges.ofLines [
    "10100 1 2e8f 62 "]),
  (["cprt", "cypriot"], CodeRanges.ofLines [
    "10100 2 5 2c 4 8 6c1 5 3 0 2 2b 2 1 4 0 3 0 "]),
  (["cyrl", "cyrillic"], CodeRanges.ofLines [
    "400 12f 1751 8 a3 0 4d 0 80 0 fe8 1f 44 0 77fd 5f 578f 1 e201 3d 22 0 "]),
  (["deva", "devanagari"], CodeRanges.ofLines [
    "900 52 3 2a 1351 26 2 1 3f7 0 8740 9 a7 1f 7201 9 "]),
  (["diak", "divesakuru"], CodeRanges.ofLines [
    "11900 6 3 0 3 7 2 1 2 1d 2 1 3 b a 9 "]),
  (["dogr", "dogra"], CodeRanges.ofLines [
    "964 b 9ec1 9 6fc7 3b "]),
  (["dsrt", "deseret"], CodeRanges.ofLines [
    "10400 4f "]),
  (["dupl", "duployan"], CodeRanges.ofLines [
    "1bc00 6a 6 c 4 8 8 9 3 7 "]),
  (["egyp", "egyptianhieroglyphs"], CodeRanges.ofLines [
    "13000 455 "]),
  (["elba", "elbasan"], CodeRanges.ofLines [
    "10500 27 "]),
  (["elym", "elymaic"], CodeRanges.ofLines [
    "10fe0 16 "]),
  (["ethi", "ethiopic"], CodeRanges.ofLines [
    "1200 48 2 3 3 6 2 0 2 3 3 28 2 3 3 20 2 3 3 6 2 0 2 3 3 e 2 38 2 3 3 42 3 1f 4 19 19e7 ",
    "16 a 6 2 6 2 6 2 6 2 6 2 6 2 6 2 6 7d23 5 3 5 3 5 a 6 2 6 13cb2 6 2 3 2 1 2 e "]),
  (["geor", "georgian"], CodeRanges.ofLines [
    "10a0 25 2 0 6 0 3 2f b91 2a 3 2 1041 25 2 0 6 0 "]),
  (["glag", "glagolitic"], CodeRanges.ofLines [
    "484 0 3 0 2779 5f 1e4 0 782c 0 13991 6 2 10 3 6 2 1 2 4 "]),
  (["gong", "gunjalagondi"], CodeRanges.ofLines [
    "964 1 113fb 5 2 1 2 24 2 1 2 5 8 9 "]),
  (["gonm", "masaramgondi"], CodeRanges.ofLines [
    "964 1 1139b 6 2 1 2 2b 4 0 2 1 2 8 9 9 "]),
  (["goth", "gothic"], CodeRanges.ofLines [
    "10330 1a "]),
  (["gran", "grantha"], CodeRanges.ofLines [
    "951 1 12 1 281 d 10dd 0 2 1 1f 2 4 1 3f7 0 f210 3 2 7 3 1 3 15 2 6 2 1 2 4 2 9 3 1 3 2 ",
    "3 0 7 0 6 6 3 6 4 4 c5c 1 2 0 "]),
  (["grek", "greek"], CodeRanges.ofLines [
    "342 0 3 0 2b 3 2 2 3 3 2 0 5 0 2 0 2 2 2 0 2 13 2 3e f f 1927 4 33 4 5 4 55 2 13f 15 3 ",
    "5 3 25 3 5 3 7 2 0 2 0 2 0 2 1e 3 34 2 e 2 d 3 5 2 12 3 2 2 8 128 0 8a3f 0 55db 4e 12 0 ",
    "d060 45 "]),
  (["gujr", "gujarati"], CodeRanges.ofLines [
    "951 1 12 1 11c 2 2 8 2 2 2 15 2 6 2 1 2 4 3 9 2 2 2 2 3 0 10 3 3 b 8 6 9d31 9 "]),
  (["guru", "gurmukhi"], CodeRanges.ofLines [
    "951 1 12 1 9c 2 2 5 5 1 3 15 2 6 2 1 2 1 2 1 3 0 2 4 5 1 3 2 4 0 8 3 2 0 8 10 9dba 9 "]),
  (["hang", "hangul"], CodeRanges.ofLines [
    "1100 ff 1e02 2 5 9 2 c f 2 7 0 c4 0 36 5d 72 1e 42 1e 76e2 1c 284 2ba3 d 16 5 30 264a 1 ",
    "11b 4 3b 1e 4 5 3 5 3 5 3 2 "]),
  (["hani", "han"], CodeRanges.ofLines [
    "2e80 19 2 58 d d5 2c 2 2 c 2 c 2 c 3 0 7 8 bc 0 95 f 21 23 3d 27 39 30 10 b 34 0 59 18 ",
    "b 4 61 1e 2 19bf 41 51ff 701 7 51f9 16d 3 69 36c 1 11b 4 707d 1 d 1 636f 11 1edf 1 daf ",
    "a6df 21 1039 7 dd 3 1681 f 1d30 c20 21d 5e3 134a 6 105f "]),
  (["hano", "hanunoo"], CodeRanges.ofLines [
    "1720 16 "]),
  (["hatr", "hatran"], CodeRanges.ofLines [
    "108e0 12 2 1 6 4 "]),
  (["hebr", "hebrew"], CodeRanges.ofLines [
    "591 36 9 1a 5 5 f529 19 2 4 2 0 2 1 2 1 2 9 "]),
  (["hira", "hiragana"], CodeRanges.ofLines [
    "3001 2 5 9 2 c 11 5 2 0 5 1 4 55 3 7 5b 1 cd49 1 11b 4 b 0 2e 1 b062 11e 13 0 1e 2 40ae ",
    "0 "]),
  (["hluw", "anatolianhieroglyphs"], CodeRanges.ofLines [
    "14400 246 "]),
  (["hmng", "pahawhhmong"], CodeRanges.ofLines [
    "16b00 45 b 9 2 6 2 14 6 12 "]),
  (["hmnp", "nyiakengpuachuehmong"], CodeRanges.ofLines [
    "1e100 2c 4 d 3 9 5 1 "]),
  (["hung", "oldhungarian"], CodeRanges.ofLines [
    "10c80 32 e 32 8 5 "]),
  (["ital", "olditalic"], CodeRanges.ofLines [
    "10300 23 a 2 "]),
  (["java", "javanese"], CodeRanges.ofLines [
    "a980 4d 2 a 5 1 "]),
  (["kali", "kayahli"], CodeRanges.ofLines [
    "a900 2f "]),
  (["kana", "katakana"], CodeRanges.ofLines [
    "3001 2 5 9 2 c 11 5 2 0 5 1 5c 3 4 5f f1 f d1 2e 2 57 caee 1 11b 3e b051 3 2 6 2 1 2 0 ",
    "120 2 33 0 f 3 "]),
  (["kawi"], CodeRanges.ofLines [
    "11f00 10 2 28 4 1b "]),
  (["khar", "kharoshthi"], CodeRanges.ofLines [
    "10a00 3 2 1 6 7 2 2 2 1c 3 2 5 9 8 8 "]),
  (["khmr", "khmer"], CodeRanges.ofLines [
    "1780 5d 3 9 7 9 1e7 1f "]),
  (["khoj", "khojki"], CodeRanges.ofLines [
    "ae6 9 9d41 9 69c7 11 2 2e "]),
  (["kits", "khitansmallscript"], CodeRanges.ofLines [
    "16fe4 0 1b1c 1d5 "]),
  (["knda", "kannada"], CodeRanges.ofLines [
    "951 1 12 1 31b c 2 2 2 16 2 9 2 4 3 8 2 2 2 3 8 1 7 1 2 3 3 9 2 2 fdd 0 2 0 8 0 18 0 2 ",
    "0 8b3c 5 "]),
  (["kthi", "kaithi"], CodeRanges.ofLines [
    "966 9 9ec1 9 6847 42 b 0 "]),
  (["lana", "taitham"], CodeRanges.ofLines [
    "1a20 3e 2 1c 3 a 7 9 7 d "]),
  (["laoo", "lao"], CodeRanges.ofLines [
    "e81 1 2 0 2 4 2 17 2 0 2 16 3 4 2 0 2 6 2 9 3 3 "]),
  (["latn", "latin"], CodeRanges.ofLines [
    "41 19 7 19 30 0 10 0 6 16 2 1e 2 1c0 28 4 7f c 116 1 4cb 1 7a9 0 c05 25 7 30 6 3 6 c 2 ",
    "45 42 ff 130 0 42 0 e 0 11 c 54 0 3a 1 7 0 1c 0 12 28 ad8 1f 7a81 7 1b 65 4 3f 6 1 2 0 ",
    "2 4 19 d 12f 0 202 2a 2 8 2 3 4f97 6 41b 19 7 19 826 5 2 29 2 8 d746 1e 7 5 "]),
  (["lepc", "lepcha"], CodeRanges.ofLines [
    "1c00 37 4 e 4 2 "]),
  (["limb", "limbu"], CodeRanges.ofLines [
    "965 0 f9b 1e 2 b 5 b 5 0 4 b "]),
  (["lina", "lineara"], CodeRanges.ofLines [
    "10107 2c 4cd 136 a 15 b 7 "]),
  (["linb", "linearb"], CodeRanges.ofLines [
    "10000 b 2 19 2 12 2 1 2 e 3 d 23 7a 6 2 5 2c 4 8 "]),
  (["lisu"], CodeRanges.ofLines [
    "a4d0 2f 7ab1 0 "]),
  (["lyci", "lycian"], CodeRanges.ofLines [
    "10280 1c "]),
  (["lydi", "lydian"], CodeRanges.ofLines [
    "10920 19 6 0 "]),
  (["mahj", "mahajani"], CodeRanges.ofLines [
    "964 b 9ec1 9 6917 26 "]),
  (["maka", "makasar"], CodeRanges.ofLines [
    "11ee0 18 "]),
  (["mand", "mandaic"], CodeRanges.ofLines [
    "640 0 200 1b 3 0 "]),
  (["mani", "manichaean"], CodeRanges.ofLines [
    "640 0 10480 26 5 b "]),
  (["marc", "marchen"], CodeRanges.ofLines [
    "11c70 1f 3 15 2 d "]),
  (["medf", "medefaidrin"], CodeRanges.ofLines [
    "16e40 5a "]),
  (["mend", "mendekikakui"], CodeRanges.ofLines [
    "1e800 c4 3 f "]),
  (["merc", "meroiticcursive"], CodeRanges.ofLines [
    "109a0 17 5 13 3 2d "]),
  (["mero", "meroitichieroglyphs"], CodeRanges.ofLines [
    "10980 1f "]),
  (["mlym", "malayalam"], CodeRanges.ofLines [
    "951 1 12 1 39b c 2 2 2 32 2 2 2 5 5 f 3 19 f5b 0 8b56 2 "]),
  (["modi"], CodeRanges.ofLines [
    "a830 9 6dc7 44 c 9 "]),
  (["mong", "mongolian"], CodeRanges.ofLines [
    "1800 19 7 58 8 2a 785 0 f631 c "]),
  (["mroo", "mro"], CodeRanges.ofLines [
    "16a40 1e 2 9 5 1 "]),
  (["mtei", "meeteimayek"], CodeRanges.ofLines [
    "aae0 16 ca 2d 3 9 "]),
  (["mult", "multani"], CodeRanges.ofLines [
    "a66 9 10811 6 2 0 2 3 2 e 2 a "]),
  (["mymr", "myanmar"], CodeRanges.ofLines [
    "1000 9f 988f 0 b2 1e 62 1f "]),
  (["nagm", "nagmundari"], CodeRanges.ofLines [
    "1e4d0 29 "]),
  (["nand", "nandinagari"], CodeRanges.ofLines [
    "964 1 381 9 ffa 0 9 0 8 0 8b36 5 716b 7 3 2d 3 a "]),
  (["narb", "oldnortharabian"], CodeRanges.ofLines [
    "10a80 1f "]),
  (["nbat", "nabataean"], CodeRanges.ofLines [
    "10880 1e 9 8 "]),
  (["newa"], CodeRanges.ofLines [
    "11400 5b 2 4 "]),
  (["nkoo", "nko"], CodeRanges.ofLines [
    "60c 0 f 0 4 0 1a1 3a 3 2 f53f 1 "]),
  (["nshu", "nushu"], CodeRanges.ofLines [
    "16fe1 0 418f 18b "]),
  (["ogam", "ogham"], CodeRanges.ofLines [
    "1680 1c "]),
  (["olck", "olchiki"], CodeRanges.ofLines [
    "1c50 2f "]),
  (["orkh", "oldturkic"], CodeRanges.ofLines [
    "10c00 48 "]),
  (["orya", "oriya"], CodeRanges.ofLines [
    "951 1 12 1 19c 2 2 7 3 1 3 15 2 6 2 1 2 4 3 8 3 1 3 2 8 2 5 1 2 4 3 11 1163 0 18 0 "]),
  (["osge", "osage"], CodeRanges.ofLines [
    "104b0 23 5 23 "]),
  (["osma", "osmanya"], CodeRanges.ofLines [
    "10480 1d 3 9 "]),
  (["ougr", "olduyghur"], CodeRanges.ofLines [
    "640 0 104b2 0 47e 19 "]),
  (["palm", "palmyrene"], CodeRanges.ofLines [
    "10860 1f "]),
  (["pauc", "paucinhau"], CodeRanges.ofLines [
    "11ac0 38 "]),
  (["perm", "oldpermic"], CodeRanges.ofLines [
    "483 0 fecd 2a "]),
  (["phag", "phagspa"], CodeRanges.ofLines [
    "1802 1 2 0 903b 37 "]),
  (["phli", "inscriptionalpahlavi"], CodeRanges.ofLines [
    "10b60 12 6 7 "]),
  (["phlp", "psalterpahlavi"], CodeRanges.ofLines [
    "640 0 10540 11 8 3 d 6 "]),
  (["phnx", "phoenician"], CodeRanges.ofLines [
    "10900 1b 4 0 "]),
  (["plrd", "miao"], CodeRanges.ofLines [
    "16f00 4a 5 38 8 10 "]),
  (["prti", "inscriptionalparthian"], CodeRanges.ofLines [
    "10b40 15 3 7 "]),
  (["rjng", "rejang"], CodeRanges.ofLines [
    "a930 23 c 0 "]),
  (["rohg", "hanifirohingya"], CodeRanges.ofLines [
    "60c 0 f 0 4 0 21 0 94 0 1062c 27 9 9 "]),
  (["runr", "runic"], CodeRanges.ofLines [
    "16a0 4a 4 a "]),
  (["samr", "samaritan"], CodeRanges.ofLines [
    "800 2d 3 e "]),
  (["sarb", "oldsoutharabian"], CodeRanges.ofLines [
    "10a60 1f "]),
  (["saur", "saurashtra"], CodeRanges.ofLines [
    "a880 45 9 b "]),
  (["sgnw", "signwriting"], CodeRanges.ofLines [
    "1d800 28b 10 4 2 e "]),
  (["shaw", "shavian"], CodeRanges.ofLines [
    "10450 2f "]),
  (["shrd", "sharada"], CodeRanges.ofLines [
    "951 0 1386 0 2 0 3 1 3 0 f4a0 5f "]),
  (["sidd", "siddham"], CodeRanges.ofLines [
    "11580 35 3 25 "]),
  (["sind", "khudawadi"], CodeRanges.ofLines [
    "964 1 9ecb 9 6a77 3a 6 9 "]),
  (["sinh", "sinhala"], CodeRanges.ofLines [
    "964 1 41c 2 2 11 4 17 2 8 2 0 3 6 4 0 5 5 2 0 2 7 7 9 3 2 103ed 13 "]),
  (["sogd", "sogdian"], CodeRanges.ofLines [
    "640 0 108f0 29 "]),
  (["sogo", "oldsogdian"], CodeRanges.ofLines [
    "10f00 27 "]),
  (["sora", "sorasompeng"], CodeRanges.ofLines [
    "110d0 18 8 9 "]),
  (["soyo", "soyombo"], CodeRanges.ofLines [
    "11a50 52 "]),
  (["sund", "sundanese"], CodeRanges.ofLines [
    "1b80 3f 101 7 "]),
  (["sylo", "sylotinagri"], CodeRanges.ofLines [
    "964 1 81 9 9e11 2c "]),
  (["syrc", "syriac"], CodeRanges.ofLines [
    "60c 0 f 1 3 0 21 0 b a 1b 0 90 d 2 3b 3 2 111 a 158e 0 2 0 "]),
  (["tagb", "tagbanwa"], CodeRanges.ofLines [
    "1735 1 2a c 2 2 2 1 "]),
  (["takr", "takri"], CodeRanges.ofLines [
    "964 1 9ecb 9 6e47 39 7 9 "]),
  (["tale", "taile"], CodeRanges.ofLines [
    "1040 9 907 1d 3 4 "]),
  (["talu", "newtailue"], CodeRanges.ofLines [
    "1980 2b 5 19 7 a 4 1 "]),
  (["taml", "tamil"], CodeRanges.ofLines [
    "951 1 12 1 21d 1 2 5 4 2 2 3 4 1 2 0 2 1 4 1 4 2 4 b 5 4 4 2 2 3 3 0 7 0 f 14 10e0 0 ",
    "8c19 0 6a0e 0 2 0 38 1 c84 31 e 0 "]),
  (["tang", "tangut"], CodeRanges.ofLines [
    "16fe0 0 20 17f7 9 2ff 201 8 "]),
  (["tavt", "taiviet"], CodeRanges.ofLines [
    "aa80 42 19 4 "]),
  (["telu", "telugu"], CodeRanges.ofLines [
    "951 1 12 1 29b c 2 2 2 16 2 f 3 8 2 2 2 3 8 1 2 2 3 0 3 3 3 9 8 8 105b 0 18 0 "]),
  (["tfng", "tifinagh"], CodeRanges.ofLines [
    "2d30 37 8 1 f 0 "]),
  (["tglg", "tagalog"], CodeRanges.ofLines [
    "1700 15 a 0 16 1 "]),
  (["thaa", "thaana"], CodeRanges.ofLines [
    "60c 0 f 1 3 0 41 9 117 31 f641 0 b 0 "]),
  (["thai"], CodeRanges.ofLines [
    "e01 39 6 1b "]),
  (["tibt", "tibetan"], CodeRanges.ofLines [
    "f00 47 2 23 5 26 2 23 2 e 2 6 5 1 "]),
  (["tirh", "tirhuta"], CodeRanges.ofLines [
    "951 1 12 1 138d 0 8b3e 9 6c47 47 9 9 "]),
  (["tnsa", "tangsa"], CodeRanges.ofLines [
    "16a70 4e 2 9 "]),
  (["toto"], CodeRanges.ofLines [
    "1e290 1e "]),
  (["ugar", "ugaritic"], CodeRanges.ofLines [
    "10380 1d 2 0 "]),
  (["vaii", "vai"], CodeRanges.ofLines [
    "a500 12b "]),
  (["vith", "vithkuqi"], CodeRanges.ofLines [
    "10570 a 2 e 2 6 2 1 2 a 2 e 2 6 2 1 "]),
  (["wara", "warangciti"], CodeRanges.ofLines [
    "118a0 52 d 0 "]),
  (["wcho", "wancho"], CodeRanges.ofLines [
    "1e2c0 39 6 0 "]),
  (["xpeo", "oldpersian"], CodeRanges.ofLines [
    "103a0 23 5 d "]),
  (["xsux", "cuneiform"], CodeRanges.ofLines [
    "12000 399 67 6e 2 4 c c3 "]),
  (["yezi", "yezidi"], CodeRanges.ofLines [
    "60c 0 f 0 4 0 41 9 10817 29 2 2 3 1 "]),
  (["yiii", "yi"], CodeRanges.ofLines [
    "3001 1 6 9 3 7 e0 0 6f05 48c 4 36 5a9b 4 "]),
  (["zanb", "zanabazarsquare"], CodeRanges.ofLines [
    "11a00 47 "]),
  (["zinh", "inherited", "qaai"], CodeRanges.ofLines [
    "300 41 2 1 2 1c 5f1 1 115c 1e 2f4 35 2 0 2 4 20d 1 c3 1f dd11 f 11 d 3d0 0 cd03 2d 3 16 ",
    "221 2 12 7 3 6 1f 3 c2f53 ef "]),
  (["zyyy", "common"], CodeRanges.ofLines [
    "0 40 1b 5 1b 2e 2 e 2 4 18 0 20 0 1c2 26 6 4 3 13 75 0 a 0 7 0 2 0 27e 0 d8 0 205 0 55d ",
    "0 196 3 713 2 913 b 3 20 2 34 2 a 4 a 2 e 12 20 40 25 2 2 3 5 2 1a 2 10 2a 2 5 296 1a a ",
    "16 39f 101 273 3 1f 2 68 201 42 2 19 193 b 5 0 4 0 e 0 e 0 16 0 212 17 20 0 32 e d 3 a2 ",
    "9 6 5f 20 0 19c1 3f 5909 19 67 2 3d1 0 f 1 52a5 9 17 14 3 b 2 12 2 3 94 0 2 1f 1b 5 1b ",
    "5 80 6 2 6 b 4 193 c 34 2c cd54 73 3d f5 b 26 3 3d 4 10 9 1 8 1d 5 3c d6 13 d 13 d 56 ",
    "1c 6 88 54 2 46 2 1 3 0 3 1 3 3 2 b 2 0 2 6 2 40 2 3 3 7 2 6 2 1b 2 3 2 4 2 0 4 6 2 153 ",
    "3 123 3 31 1472 43 4d 3c 2c3 2b 5 63 d e 3 e 2 e 2 24 b ad 39 19 2 1 e 2b 5 8 18 5 9b ",
    "3d7 5 10 4 c 4 76 5 5e 7 b 5 0 10 b 5 37 9 9 7 27 9 1d 3 1 4f 153 d d 3 c 4 8 8 2d 2 6 ",
    "9 d 5 8 8 8 8 92 2 36 26 9 c0408 0 1f 5f "])]

end BundleFinish.Pattern.Tables
