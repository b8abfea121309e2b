/-!
# File stores

What the generator asks of the place where files are kept: reading a text,
making a directory with all that lie above it, and writing a text.
-/

namespace EventDispatch

/-- Why an operation on a file fails. -/
inductive FileFault where
  | notFound
  | alreadyExists
  | notDirectory
  | isDirectory
  | nameTooLong
  | notText
  | nulInPath
  | other (message : String)
  deriving DecidableEq

/-- The fault in the words of a message. -/
def FileFault.describe : FileFault → String
  | notFound => "No such file or directory (os error 2)"
  | alreadyExists => "File exists (os error 17)"
  | notDirectory => "Not a directory (os error 20)"
  | isDirectory => "Is a directory (os error 21)"
  | nameTooLong => "File name too long (os error 36)"
  | notText => "stream did not contain valid UTF-8"
  | nulInPath => "file name contained an unexpected NUL byte"
  | other message => message

/-- A place where files are kept. -/
class FileStore (m : Type → Type) where
  /-- The text of the file at a path. -/
  read : String → m (Except FileFault String)
  /-- Makes the directory at a path and those above it, as far as they are not there. -/
  makeDirectories : String → m (Except FileFault Unit)
  /-- Makes a text the whole content of the file at a path. -/
  write : String → String → m (Except FileFault Unit)

end EventDispatch
