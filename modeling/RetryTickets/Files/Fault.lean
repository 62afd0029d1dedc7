-- Why a file operation fails.

namespace RetryTickets

/-- The causes that a file system reports. -/
inductive FileFault where
  /-- A part of the path is not there. -/
  | notFound
  /-- The place is in use by the system. -/
  | busy
  /-- Something is there already. -/
  | occupied
  /-- A part of the path that leads on is a plain file. -/
  | notDirectory
  /-- A plain file was needed and a directory is there. -/
  | isDirectory
  /-- A name has more than 255 bytes, or a path more than 4095. -/
  | nameTooLong
  /-- A name holds the character zero. -/
  | zeroInName
  /-- Any other cause, in the system's words. -/
  | other (text : String)
  deriving DecidableEq

/-- The system's wording of a cause. -/
def FileFault.message : FileFault → String
  | notFound => "No such file or directory (os error 2)"
  | busy => "Device or resource busy (os error 16)"
  | occupied => "File exists (os error 17)"
  | notDirectory => "Not a directory (os error 20)"
  | isDirectory => "Is a directory (os error 21)"
  | nameTooLong => "File name too long (os error 36)"
  | zeroInName => "file name contained an unexpected NUL byte"
  | other text => text

end RetryTickets
