/-! # Faults of file access

The ways reading or writing a file can fail, with the sentences an operating system gives for
them.
-/

namespace Phrasebook

/-- Why a file could not be read or written. -/
inductive FileFault where
  /-- The path, or a directory on it, does not exist. -/
  | notFound
  /-- The path names a directory where a file was expected. -/
  | isDirectory
  /-- A part of the path that should be a directory is a file. -/
  | notDirectory
  /-- The file's bytes are no UTF-8 text. -/
  | notText
  deriving Repr, DecidableEq, BEq

namespace FileFault

/-- The sentence that names the fault. -/
def message : FileFault → String
  | .notFound => "No such file or directory (os error 2)"
  | .isDirectory => "Is a directory (os error 21)"
  | .notDirectory => "Not a directory (os error 20)"
  | .notText => "stream did not contain valid UTF-8"

end FileFault

end Phrasebook
