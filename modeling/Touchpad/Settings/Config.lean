/-!
# Driver options

The options of the driver with their built-in values.
-/

namespace Touchpad

/-- The options of the driver. -/
structure Config where
  /-- Whether a short touch is a click. -/
  tapToClick : Bool := true
  /-- How far a finger may travel on either axis and still tap. -/
  tapDistance : Nat := 32
  /-- How much the decoder logs, where it is not left to the hardware. -/
  debug : Option Nat := none
  /-- Whether parity is checked, where it is not left to the hardware. -/
  parityCheck : Option Bool := none
  /-- Attempts for the capabilities query. -/
  commandRetries : Nat := 3
  /-- Milliseconds between two such attempts. -/
  commandDelay : Nat := 500
  /-- Attempts to read back the mode register. -/
  readBackRetries : Nat := 5
  /-- Microseconds between two such attempts. -/
  readBackDelay : Nat := 2000
  deriving DecidableEq, Repr

namespace Config

def optionText {α : Type} (text : α → String) : Option α → String
  | none => "None"
  | some a => "Some(" ++ text a ++ ")"

/-- The options with their names, as they are logged. -/
def spelledFields (c : Config) : List (String × String) :=
  [("tap_to_click", toString c.tapToClick), ("tap_distance", toString c.tapDistance),
   ("debug", optionText toString c.debug), ("parity_check", optionText toString c.parityCheck),
   ("command_retries", toString c.commandRetries),
   ("command_delay_ms", toString c.commandDelay),
   ("read_back_retries", toString c.readBackRetries),
   ("read_back_delay_us", toString c.readBackDelay)]

def spelled (c : Config) : String :=
  "DriverConfig \x7b " ++ ", ".intercalate (c.spelledFields.map fun f => f.1 ++ ": " ++ f.2) ++
    " \x7d"

end Config

end Touchpad
