import Touchpad.Files.Tree
import Touchpad.Log
import Touchpad.Text.Quoted

/-!
# Where files are searched for

The directories of a user and of the system, as the environment names them, and the order in which
files with options are looked for in them. A directory that the environment names by a relative path
is passed over. Where a user has no home at all, none of these directories are known, and only the
file of the system and the fallback are left.

## Main definitions

* `Search.configPaths`: the candidates for the file with the options, in order
* `Search.configFile?`: the first candidate that is a file
* `Search.capturesPath`: the directory of the recorded sessions
-/

namespace Touchpad

/-- What says where files are. -/
structure Environment where
  /-- The home of the user in the variable for it; an empty text counts as none. -/
  home : String := ""
  /--
  The home of the user in the user database, which is asked where the variable names none. A user
  who is not meant to have a home is usually listed with a directory that does not exist.
  -/
  account : Option String := some "/nonexistent"
  configHome : Option String := none
  configDirs : Option String := none
  dataHome : Option String := none
  dataDirs : Option String := none

namespace Environment

/-- The home of the user, if there is any. -/
def home? (e : Environment) : Option String := if e.home.isEmpty then e.account else some e.home

/-- A directory that the environment names by an absolute path, or else one below the home. -/
def ownDirectory (named : Option String) (below home : String) : String :=
  (named.filter Path.isAbsolute).getD (Path.join home below)

/-- The directories that the environment names by absolute paths, or else the given ones. -/
def sharedDirectories (named : Option String) (standard : List String) : List String :=
  match Path.absolutePaths (named.getD "") with
  | [] => standard
  | dirs => dirs

def userConfig? (e : Environment) : Option String :=
  e.home?.map (ownDirectory e.configHome ".config")

def userData? (e : Environment) : Option String :=
  e.home?.map (ownDirectory e.dataHome ".local/share")

/-- The directories of the system for options; without a home they are not looked up. -/
def systemConfig (e : Environment) : List String :=
  if e.home?.isSome then sharedDirectories e.configDirs ["/etc/xdg"] else []

/-- The directories of the system for shared data; without a home they are not looked up. -/
def systemData (e : Environment) : List String :=
  if e.home?.isSome then sharedDirectories e.dataDirs ["/usr/local/share", "/usr/share"] else []

end Environment

namespace Search

/-- The name of the directory with the files of the program. -/
def directoryName : String := "elanpad"

def fileName : String := "config.yaml"

/-- The file with the options of the system, which comes before all others. -/
def systemFile : String := "/etc/elanpad/config.yaml"

/-- The directory for shared data where the environment leads to none. -/
def fallbackBase : String := "/usr/share/elanpad"

/-- The directory of the recorded sessions beside the working directory. -/
def localCaptures : String := "./rootfs/usr/share/elanpad/captures"

/-- The directory of the program in another one. -/
def programDirectory (dir : String) : String := Path.join dir directoryName

def optionsIn (dir : String) : String := Path.join (programDirectory dir) fileName

/--
What exists of the file with options in a user directory and in system directories. The system
directories are gone through from the last to the first, and the user directory comes after them.
-/
def existing (f : Files) (own : Option String) (shared : List String) : List String :=
  ((shared.reverse ++ own.toList).map optionsIn).filter f.exists?

/-- The first existing directory for shared data. -/
def base? (f : Files) (e : Environment) : Option String :=
  (e.systemData.map programDirectory).find? f.exists?

def base (f : Files) (e : Environment) : String := (base? f e).getD fallbackBase

/-- What looking for the directory for shared data logs. -/
def baseNotes (f : Files) (e : Environment) : List Log.Record :=
  if e.home?.isNone then [Log.warn "Unable to determine config base path. Using fallback path."]
  else
    match base? f e with
    | some _ => []
    | none => [Log.warn "Config base path not found. Using fallback path."]

/-- The candidates for the file with the options, in the order in which they are tried. -/
def configPaths (f : Files) (e : Environment) : List String :=
  systemFile ::
    (existing f e.userConfig? e.systemConfig ++ existing f e.userData? e.systemData ++
      [Path.join (base f e) fileName])

/-- The first candidate that is a file. -/
def configFile? (f : Files) (e : Environment) : Option String :=
  (configPaths f e).find? f.isFile

/-- The candidates that are looked at until one is a file, this one included. -/
def triedPaths (f : Files) : List String → List String
  | [] => []
  | path :: paths => path :: if f.isFile path then [] else triedPaths f paths

/-- What searching for the file with the options logs. -/
def configFileNotes (f : Files) (e : Environment) : List Log.Record :=
  baseNotes f e ++
    (triedPaths f (configPaths f e)).map fun path =>
      Log.trace ("Checking for config file: " ++ Text.Quoted.encode path)

def capturesPath (f : Files) (e : Environment) : String :=
  if f.isDirectory localCaptures then localCaptures else Path.join (base f e) "captures"

def capturesNotes (f : Files) (e : Environment) : List Log.Record :=
  if f.isDirectory localCaptures then [] else baseNotes f e

/-- The path of a recorded session that is given by a path or by its name. -/
def capturePath (f : Files) (e : Environment) (given : String) : String :=
  if f.exists? given then given else Path.join (capturesPath f e) given

def captureNotes (f : Files) (e : Environment) (given : String) : List Log.Record :=
  if f.exists? given then [] else capturesNotes f e

/-- The directories for shared data that may turn out to be the one in use. -/
def bases (e : Environment) : List String := e.systemData.map programDirectory ++ [fallbackBase]

/-- The paths that a search for the file with the options looks at. -/
def configCandidates (e : Environment) : List String :=
  systemFile ::
    ((e.userConfig?.toList ++ e.systemConfig ++ e.userData?.toList ++ e.systemData).map optionsIn ++
      bases e ++ (bases e).map (Path.join · fileName))

/-- The paths that a search for a recorded session looks at. -/
def captureCandidates (e : Environment) (given : String) : List String :=
  let directories := localCaptures :: (bases e).map (Path.join · "captures")
  given :: (localCaptures :: bases e ++ directories.map (Path.join · given))

end Search

end Touchpad
