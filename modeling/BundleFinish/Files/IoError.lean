/-! # Errors of the file system

Each cause with the words the system has for it. -/

namespace BundleFinish

/-- Why an access to a file, a directory or a process failed. -/
inductive IoError where
  | notFound
  | notDirectory
  | isDirectory
  | permissionDenied
  | tooManyLinks
  | nameTooLong
  /-- A name holds the octet zero, which no file name may. -/
  | zeroOctet
  /-- The content was to be text and does not decode. -/
  | notText
  /-- Any other cause, in its own words. -/
  | other (text : String)
  deriving DecidableEq, Repr

namespace IoError

/-- The words for an error. -/
def message : IoError → String
  | .notFound => "No such file or directory (os error 2)"
  | .notDirectory => "Not a directory (os error 20)"
  | .isDirectory => "Is a directory (os error 21)"
  | .permissionDenied => "Permission denied (os error 13)"
  | .tooManyLinks => "Too many levels of symbolic links (os error 40)"
  | .nameTooLong => "File name too long (os error 36)"
  | .zeroOctet => "file name contained an unexpected NUL byte"
  | .notText => "stream did not contain valid UTF-8"
  | .other text => text

end IoError

end BundleFinish
