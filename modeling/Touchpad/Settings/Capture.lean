import Touchpad.Settings.ConfigFile

/-!
# Recorded sessions

A capture holds the bytes with which a touchpad answered detection and start-up, and the packet
stream that followed, both as words of hexadecimal digits.
-/

namespace Touchpad

/-- A recorded session. -/
structure Capture where
  name : String
  description : Option String
  /-- The replies to the commands of detection and start-up. -/
  replies : String
  /-- The packet stream. -/
  stream : String
  /-- The options to replay the session with. -/
  config : Option Config
  deriving DecidableEq, Repr

namespace Capture

open Yaml

/-- The capture in the text of a file. -/
def parse? (text : String) : Option Capture := do
  let d ← Document.parse? text
  let fields ← d.rootFields?
  return {
    name := ← d.required? fields "name" Document.text?
    description := ← d.fieldOr fields "description" (Document.option? Document.text?) none
    replies := ← d.required? fields "replies" Document.text?
    stream := ← d.required? fields "stream" Document.text?
    config := ← d.fieldOr fields "config" (Document.option? Config.ofNode?) none }

def replyBytes (c : Capture) : Except Hex.InvalidWord (List UInt8) := Hex.parse c.replies

def streamBytes (c : Capture) : Except Hex.InvalidWord (List UInt8) := Hex.parse c.stream

end Capture

end Touchpad
