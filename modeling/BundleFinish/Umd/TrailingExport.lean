import BundleFinish.Text.Blank

/-! # The trailing export

A CommonJS text may end in one statement `module.exports = expression;`. The statement must start
after the beginning of the text, a semicolon, a brace or a newline, and the expression is what
stands between the equals sign and the first semicolon, which nothing but white space may follow.
`trailingExport?` finds the first place where all of this holds, and `returnTrailingExport` puts a
`return` of the expression there. This is a transformation of text, which knows nothing of strings
or comments. -/

namespace BundleFinish.Umd

open Text

/-- What a trailing export assigns to. -/
def exportTarget : List Char := "module.exports".toList

/-- Whether a statement may start after the given text, which is read backwards: over white space
to the start, to a separator, or across a newline. -/
def startsStatement : List Char → Bool
  | [] => true
  | c :: before =>
    c == ';' || c == '{' || c == '}' || c == '\n' || (isBlank c && startsStatement before)

/-- The expression in what follows the equals sign: everything before the first semicolon, without
white space at its ends; of nothing but white space the last character stands for the
expression. There is none when a semicolon or the end comes first, or when more than white space
follows the semicolon. -/
def expressionOf? (assigned : List Char) : Option (List Char) :=
  let body := assigned.takeWhile (· != ';')
  let after := (assigned.dropWhile (· != ';')).drop 1
  if isBlankText after then
    -- A statement has some expression, so of white space alone one character is left over.
    match trimChars body, body.getLast? with
    | [], none => none
    | [], some last => some [last]
    | expression, _ => some expression
  else none

/-- The expression of an export statement that starts here and ends the text. -/
def exportHere? (text : List Char) : Option (List Char) :=
  if exportTarget.isPrefixOf text then
    match (text.drop exportTarget.length).dropWhile isBlank with
    | '=' :: assigned => expressionOf? assigned
    | _ => none
  else none

/-- The first trailing export of a text whose characters before it are given backwards: what stands
before the statement, and its expression. -/
def trailingExportFrom? (before : List Char) : List Char → Option (List Char × List Char)
  | [] => none
  | c :: rest =>
    match (if startsStatement before then exportHere? (c :: rest) else none) with
    | some expression => some (before.reverse, expression)
    | none => trailingExportFrom? (c :: before) rest

/-- The first trailing export of a text: what stands before the statement, and its expression. -/
def trailingExport? (text : List Char) : Option (List Char × List Char) :=
  trailingExportFrom? [] text

/-- Make the trailing export of a text the result of the function it is to become the body of. -/
def returnExport (text : List Char) : List Char :=
  match trailingExport? text with
  | some (before, expression) => before ++ "return ".toList ++ expression ++ [';']
  | none => text

/-- Replace a trailing `module.exports = expression;` by `return expression;`. -/
def returnTrailingExport (text : String) : String :=
  String.ofList (returnExport text.toList)

end BundleFinish.Umd
