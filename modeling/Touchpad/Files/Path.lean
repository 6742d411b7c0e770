/-!
# Paths

A path is text whose parts are separated by slashes. One that begins with a slash is absolute.
-/

namespace Touchpad.Path

/-- Whether a path says where it begins. -/
def isAbsolute (p : String) : Bool := p.toList.head? == some '/'

/-- The path `p` as seen from the directory `dir`; an absolute path does not depend on it. -/
def join (dir p : String) : String :=
  if isAbsolute p || dir.isEmpty then p
  else if dir.toList.getLast? == some '/' then dir ++ p
  else dir ++ "/" ++ p

/-- The parts of a path; consecutive slashes have an empty part between them. -/
def parts (p : String) : List String := p.splitOn "/"

/-- The paths of a list that are absolute, where colons separate the paths. -/
def absolutePaths (list : String) : List String := (list.splitOn ":").filter isAbsolute

end Touchpad.Path
