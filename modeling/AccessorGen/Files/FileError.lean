/- File errors.
   Why an operation on files fails, in the words of the operating system. -/

set_option autoImplicit false
set_option relaxedAutoImplicit false

namespace AccessorGen.Files

inductive FileError where
  | notFound
  | permissionDenied
  | alreadyExists
  | notDirectory
  | isDirectory
  | nameTooLong
  /-- Any other cause, in its own words. -/
  | other (description : String)
  deriving DecidableEq, Repr

def FileError.message : FileError → String
  | .notFound => "No such file or directory (os error 2)"
  | .permissionDenied => "Permission denied (os error 13)"
  | .alreadyExists => "File exists (os error 17)"
  | .notDirectory => "Not a directory (os error 20)"
  | .isDirectory => "Is a directory (os error 21)"
  | .nameTooLong => "File name too long (os error 36)"
  | .other description => description

/-- The operations on files that the program needs. -/
class MonadFiles (m : Type → Type) where
  /-- The bytes of a file. -/
  read : String → m (Except FileError ByteArray)
  /-- Makes a directory and those above it. -/
  makeDirectories : String → m (Except FileError Unit)
  /-- Replaces the bytes of a file or makes a new one. -/
  write : String → ByteArray → m (Except FileError Unit)

end AccessorGen.Files
