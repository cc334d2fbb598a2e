/-!
# Failures of the file system

`FileFailure` lists the ways a call on the file system can go wrong and `FileFailure.message`
words them, with the system's error number where there is one.
-/

namespace StructVault

/-- Why a call on the file system was refused. -/
inductive FileFailure where
  | notFound
  | alreadyThere
  | busy
  | notDirectory
  | isDirectory
  | nameTooLong
  | nulInPath
  | notText
  deriving DecidableEq, Repr

namespace FileFailure

/-- The wording of a failure. -/
def message : FileFailure → String
  | notFound => "No such file or directory (os error 2)"
  | busy => "Device or resource busy (os error 16)"
  | alreadyThere => "File exists (os error 17)"
  | notDirectory => "Not a directory (os error 20)"
  | isDirectory => "Is a directory (os error 21)"
  | nameTooLong => "File name too long (os error 36)"
  | nulInPath => "file name contained an unexpected NUL byte"
  | notText => "stream did not contain valid UTF-8"

end FileFailure

end StructVault
