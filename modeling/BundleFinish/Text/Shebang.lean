import BundleFinish.Text.Blank

/-! # Interpreter lines

A text that starts with `#!` has its first line kept in front of everything that is put before it,
because an interpreter is only looked up on line one. -/

namespace BundleFinish.Text

/-- The first line of a text with its newline, and the rest. -/
def splitFirstLine : List Char → List Char × List Char
  | [] => ([], [])
  | c :: rest =>
    if c = '\n' then (['\n'], rest)
    else
      let (line, others) := splitFirstLine rest
      (c :: line, others)

/-- Nothing is lost between the first line and the rest. -/
@[simp] theorem splitFirstLine_append (text : List Char) :
    (splitFirstLine text).1 ++ (splitFirstLine text).2 = text := by
  induction text with
  | nil => rfl
  | cons c rest ih =>
    unfold splitFirstLine
    split <;> simp_all

/-- Whether a text starts with `#!`. -/
def hasShebang : List Char → Bool
  | '#' :: '!' :: _ => true
  | _ => false

/-- The interpreter line, empty where there is none, and the rest of the text. -/
def splitShebang (text : List Char) : List Char × List Char :=
  if hasShebang text then splitFirstLine text else ([], text)

/-- Nothing is lost between the interpreter line and the rest. -/
@[simp] theorem splitShebang_append (text : List Char) :
    (splitShebang text).1 ++ (splitShebang text).2 = text := by
  unfold splitShebang
  split <;> simp

/-- A text with a newline at its end: one is added to a text that has none. -/
def endLine (text : List Char) : List Char :=
  if text.getLast? = some '\n' then text else text ++ ['\n']

/-- The interpreter line ready to stand above other lines: its newline is added where it is
missing, and no line stays no line. -/
def shebangLine (line : List Char) : List Char :=
  if line = [] then [] else endLine line

end BundleFinish.Text
