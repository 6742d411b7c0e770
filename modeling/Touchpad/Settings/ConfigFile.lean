import Touchpad.Settings.Config
import Touchpad.Yaml.Reading

/-!
# Options in a file

A file with options is a YAML mapping from their names to values. Options that are left out keep
their built-in values, and names that are not known are passed over.
-/

namespace Touchpad.Config

open Yaml

/-- The options that a node stands for. -/
def ofFields? (d : Document) (fields : List Document.Field) : Option Config := do
  let standard : Config := {}
  return {
    tapToClick := ← d.fieldOr fields "tap_to_click" Document.bool? standard.tapToClick
    tapDistance := ←
      d.fieldOr fields "tap_distance" (Document.natBelow? UInt32.size) standard.tapDistance
    debug := ←
      d.fieldOr fields "debug" (Document.option? (Document.natBelow? UInt8.size)) standard.debug
    parityCheck := ←
      d.fieldOr fields "parity_check" (Document.option? Document.bool?) standard.parityCheck
    commandRetries := ←
      d.fieldOr fields "command_retries" (Document.natBelow? UInt32.size) standard.commandRetries
    commandDelay := ←
      d.fieldOr fields "command_delay_ms" (Document.natBelow? UInt64.size) standard.commandDelay
    readBackRetries := ←
      d.fieldOr fields "read_back_retries" (Document.natBelow? UInt32.size) standard.readBackRetries
    readBackDelay := ←
      d.fieldOr fields "read_back_delay_us" (Document.natBelow? UInt64.size)
        standard.readBackDelay }

/-- The options that a node stands for. -/
def ofNode? (d : Document) (n : Node) : Option Config := do ofFields? d (← d.fields? n)

/-- The options in the text of a file. -/
def parse? (text : String) : Option Config := do
  let d ← Document.parse? text
  ofFields? d (← d.rootFields?)

end Touchpad.Config
