import Touchpad.Settings.Capture
import Touchpad.Settings.Search

/-!
# Loading options and recorded sessions

Options come from the given file, or else from the first file that the search finds; without one,
they have their built-in values. A file that is found and cannot be opened is an error, as is one
whose text does not say options, and nothing else is tried.
-/

namespace Touchpad

/-- Why options or a recorded session could not be loaded. -/
inductive LoadError where
  | access (cause : AccessError)
  /-- The text does not say what was expected of it. -/
  | malformed
  | invalidHex (cause : Hex.InvalidWord)
  deriving DecidableEq, Repr

def LoadError.message : LoadError → String
  | access cause => "Could not read: " ++ cause.message
  | malformed => "Unable to deserialize"
  | invalidHex cause => "Invalid hex string: " ++ cause.word

namespace Files

/-- What `parse?` makes of the text at a path. -/
def parsed {α : Type} (f : Files) (parse? : String → Option α) (path : String) :
    Except LoadError α :=
  match f.text? path with
  | .error cause => .error (.access cause)
  | .ok text =>
    match text.bind parse? with
    | some a => .ok a
    | none => .error .malformed

end Files

namespace Config

def fromFile (f : Files) (path : String) : Except LoadError Config := f.parsed Config.parse? path

/-- The options in the given file, or else in the first file that is found. -/
def load (f : Files) (e : Environment) : Option String → Except LoadError Config
  | some path => fromFile f path
  | none =>
    match Search.configFile? f e with
    | some path => fromFile f path
    | none => .ok {}

def loading (path : String) : Log.Record :=
  Log.debug ("Loading config from " ++ Text.Quoted.encode path)

/-- What loading the options logs. -/
def loadNotes (f : Files) (e : Environment) : Option String → List Log.Record
  | some path => [loading path]
  | none =>
    Search.configFileNotes f e ++
      [match Search.configFile? f e with
        | some path => loading path
        | none => Log.debug "No config file found. Using defaults."]

end Config

namespace Capture

def fromFile (f : Files) (path : String) : Except LoadError Capture := f.parsed Capture.parse? path

end Capture

end Touchpad
