import BundleFinish.Files.Path
import BundleFinish.Text.Shebang
import BundleFinish.Umd.TrailingExport

/-! # The universal module wrapper

A wrapped text calls a factory whose body is the module, and gives its result to the first of three
places that exists: an AMD loader, `module.exports`, or a property of the global object. The
interpreter line of the module stays line one. -/

namespace BundleFinish.Umd

open Text

/-- The lines of the wrapper up to the name of the global variable. -/
def preambleStart : String :=
  "(function (root, factory) \x7b\n" ++
  "  if (typeof define === 'function' && define.amd) \x7b\n" ++
  "    define([], factory);\n" ++
  "  \x7d else if (typeof module === 'object' && module.exports) \x7b\n" ++
  "    module.exports = factory();\n" ++
  "  \x7d else \x7b\n" ++
  "    root."

/-- The lines of the wrapper from the name of the global variable to the body. -/
def preambleEnd : String :=
  " = factory();\n" ++
  "  \x7d\n" ++
  "\x7d(typeof self !== 'undefined' ? self : this, function () \x7b\n"

/-- What stands before the body. -/
def preamble (globalName : String) : List Char :=
  preambleStart.toList ++ globalName.toList ++ preambleEnd.toList

/-- What stands after the body. -/
def postamble : List Char := "\x7d));\n".toList

/-- The body of the factory: the module with its trailing export returned, on lines of its own. -/
def factoryBody (text : List Char) : List Char := endLine (returnExport text)

/-- Wrap the characters of a module. -/
def wrapChars (text : List Char) (globalName : String) : List Char :=
  shebangLine (splitShebang text).1 ++ preamble globalName ++ factoryBody (splitShebang text).2
    ++ postamble

/-- Wrap a module so that AMD loaders, CommonJS and plain scripts can use it. -/
def wrap (text globalName : String) : String :=
  String.ofList (wrapChars text.toList globalName)

/-- Whether a path names a script that is to be wrapped: its name is text and ends in `.js`. -/
def isWrappable (path : Path) : Bool :=
  match path.fileName.bind Utf8.decode? with
  | some name => ".js".toList.isSuffixOf name.toList && !".js.map".toList.isSuffixOf name.toList
  | none => false

end BundleFinish.Umd
