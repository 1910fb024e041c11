/-! # Faults of file operations

  Why an operation on the file system is refused, and the text that reports it.
-/

namespace Scaffold

/-! ### Causes -/

/-- Why a file operation is refused. -/
inductive IoFault where
  /-- Nothing is at the path, or one of its directories is missing. -/
  | notFound
  /-- Something is already at the path. -/
  | alreadyExists
  /-- A file stands where a directory is needed. -/
  | notADirectory
  /-- A directory stands where a file is needed. -/
  | isADirectory
  /-- A directory that has to be empty is not. -/
  | directoryNotEmpty
  /-- A directory would move below itself. -/
  | invalidMove
  /-- The path names `.`, `..` or the root where a name is needed. -/
  | resourceBusy
  /-- A name is too long. -/
  | invalidFilename
  /-- The path holds a zero byte. -/
  | zeroByte
  /-- The path is empty where an absolute one has to be made of it. -/
  | emptyPath
  /-- The bytes of a file are not text. -/
  | notText
  deriving DecidableEq, Repr

/-- The text that reports the cause. -/
def IoFault.message : IoFault → String
  | .notFound => "No such file or directory (os error 2)"
  | .alreadyExists => "File exists (os error 17)"
  | .notADirectory => "Not a directory (os error 20)"
  | .isADirectory => "Is a directory (os error 21)"
  | .directoryNotEmpty => "Directory not empty (os error 39)"
  | .invalidMove => "Invalid argument (os error 22)"
  | .resourceBusy => "Device or resource busy (os error 16)"
  | .invalidFilename => "File name too long (os error 36)"
  | .zeroByte => "file name contained an unexpected NUL byte"
  | .emptyPath => "cannot make an empty path absolute"
  | .notText => "stream did not contain valid UTF-8"

end Scaffold
