/-!
# Failures to reach a file or a device

The causes for which opening, reading or writing fails, each with the text that the operating system
gives it.
-/

namespace Touchpad

/-- Why a file or a device could not be used. -/
inductive AccessError where
  | notFound
  /-- It is there, and the user may not open it. -/
  | denied
  | notDirectory
  | isDirectory
  /-- The device is no longer there. -/
  | deviceFailure
  /-- Nobody receives what is written. -/
  | brokenPipe
  /-- There is nothing more to read. -/
  | endOfData
  /-- A failure that is known by its text only. -/
  | reported (text : String)
  deriving DecidableEq, Repr

def AccessError.message : AccessError → String
  | notFound => "No such file or directory (os error 2)"
  | denied => "Permission denied (os error 13)"
  | notDirectory => "Not a directory (os error 20)"
  | isDirectory => "Is a directory (os error 21)"
  | deviceFailure => "Input/output error (os error 5)"
  | brokenPipe => "Broken pipe (os error 32)"
  | endOfData => "failed to fill whole buffer"
  | reported text => text

end Touchpad
