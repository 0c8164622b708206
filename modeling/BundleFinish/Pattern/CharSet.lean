import BundleFinish.Pattern.Expression
import BundleFinish.Pattern.Tables.CaseFolding
import BundleFinish.Pattern.Tables.Categories
import BundleFinish.Pattern.Tables.Properties
import BundleFinish.Pattern.Tables.ScriptExtensions
import BundleFinish.Pattern.Tables.Scripts
import BundleFinish.Text.Blank
import BundleFinish.Text.Digit
import BundleFinish.Text.Letter

/-! # Sets of characters

The sets that patterns name, closed under the operations of bracketed classes and under differences
of case. -/

namespace BundleFinish.Pattern

/-- A set of characters. -/
inductive CharSet where
  | nothing
  | everything
  | interval (first last : Nat)
  | table (ranges : CodeRanges)
  | blank
  | union (left right : CharSet)
  | intersection (left right : CharSet)
  | complement (set : CharSet)
  /-- All characters that differ from one of the set only in case. -/
  | folded (set : CharSet)
  /-- The same for the letters of ASCII alone. -/
  | foldedAscii (set : CharSet)

namespace CharSet

/-- Whether a character, given by its code point, is in a set. -/
def holds : CharSet → Nat → Bool
  | .nothing, _ => false
  | .everything, _ => true
  | .interval first last, code => first ≤ code && code ≤ last
  | .table ranges, code => ranges.holds code
  | .blank, code => Text.isBlank (Char.ofNat code)
  | .union left right, code => left.holds code || right.holds code
  | .intersection left right, code => left.holds code && right.holds code
  | .complement set, code => !set.holds code
  | .folded set, code => (Tables.foldOrbit code).any set.holds
  | .foldedAscii set, code =>
    set.holds code || (65 ≤ code && code ≤ 90 && set.holds (code + 32))
      || (97 ≤ code && code ≤ 122 && set.holds (code - 32))

/-- The set of one character. -/
def single (c : Char) : CharSet := .interval c.toNat c.toNat

/-- The characters in one set but not in another. -/
def difference (left right : CharSet) : CharSet := .intersection left (.complement right)

/-- The characters in one of two sets, but not in both. -/
def symmetricDifference (left right : CharSet) : CharSet :=
  .union (difference left right) (difference right left)

/-- The union of some sets. -/
def unionOf (sets : List CharSet) : CharSet := sets.foldl .union .nothing

@[simp] theorem holds_single (c : Char) (code : Nat) :
    (single c).holds code = decide (c.toNat = code) := by
  simp only [single, holds]
  by_cases h : c.toNat = code <;> simp [h]; omega

/-! ## Named sets -/

/-- The general categories with given short names. -/
def categoriesOf (names : List String) : CharSet :=
  unionOf ((Tables.categories.filter fun entry =>
    names.any fun name => entry.1.contains name).map fun entry => .table entry.2)

/-- Digits of all scripts. -/
def digit : CharSet := .table Text.decimalDigitRanges

/-- Characters of words: letters, marks, digits, connectors and joiners. -/
def word : CharSet :=
  unionOf [.table Text.alphabeticRanges, categoriesOf ["mn", "mc", "me", "pc"], digit,
    .interval 0x200c 0x200d]

/-- Digits of ASCII. -/
def digitAscii : CharSet := .interval 48 57

/-- White space of ASCII. -/
def spaceAscii : CharSet := .union (.interval 9 13) (.interval 32 32)

/-- Characters of words of ASCII. -/
def wordAscii : CharSet :=
  unionOf [.interval 97 122, .interval 65 90, digitAscii, .interval 95 95]

/-- Named groups of general categories, with the categories that they hold. -/
def categoryGroups : List (List String × List String) := [
  (["l", "letter"], ["lu", "ll", "lt", "lm", "lo"]),
  (["lc", "casedletter", "l&"], ["lu", "ll", "lt"]),
  (["m", "mark", "combiningmark"], ["mn", "mc", "me"]),
  (["n", "number"], ["nd", "nl", "no"]),
  (["p", "punctuation", "punct"], ["pc", "pd", "ps", "pe", "pi", "pf", "po"]),
  (["s", "symbol"], ["sm", "sc", "sk", "so"]),
  (["z", "separator"], ["zs", "zl", "zp"]),
  (["c", "other"], ["cc", "cf", "co", "cn"])]

/-- The set under a name in a table. -/
def inTable? (table : List (List String × CodeRanges)) (name : String) : Option CharSet :=
  (table.find? fun entry => entry.1.contains name).map fun entry => .table entry.2

/-- A general category or a group of them. -/
def category? (name : String) : Option CharSet :=
  match name with
  | "any" => some .everything
  | "ascii" => some (.interval 0 127)
  | "assigned" => some (.complement (categoriesOf ["cn"]))
  | "cs" | "surrogate" => some .nothing
  | _ =>
    match categoryGroups.find? fun entry => entry.1.contains name with
    | some (_, names) => some (categoriesOf names)
    | none => inTable? Tables.categories name

/-- The classes of ASCII characters. -/
def ascii : AsciiClass → CharSet
  | .alnum => unionOf [.interval 48 57, .interval 65 90, .interval 97 122]
  | .alpha => unionOf [.interval 65 90, .interval 97 122]
  | .ascii => .interval 0 127
  | .blank => unionOf [.interval 9 9, .interval 32 32]
  | .cntrl => unionOf [.interval 0 31, .interval 127 127]
  | .digit => digitAscii
  | .graph => .interval 33 126
  | .lower => .interval 97 122
  | .print => .interval 32 126
  | .punct => unionOf [.interval 33 47, .interval 58 64, .interval 91 96, .interval 123 126]
  | .space => spaceAscii
  | .upper => .interval 65 90
  | .word => wordAscii
  | .xdigit => unionOf [.interval 48 57, .interval 65 70, .interval 97 102]

end CharSet

end BundleFinish.Pattern
