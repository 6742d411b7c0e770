import Touchpad.Hardware.Profile
import Touchpad.Report.Table

/-!
# The table of a profile
-/

namespace Touchpad.Profile

def settingText (s : Setting) : String := Hex.markedByte s.register ++ "=" ++ Hex.markedByte s.value

/-- The properties of a touchpad with their values, as they are printed. -/
def properties (p : Profile) : List (String × String) :=
  [("Hardware", p.generation.name), ("Firmware", p.firmwareText),
   ("Capabilities", Hex.spaced p.capabilities.toList), ("Packet size", toString p.packetSize),
   ("X range", p.rangeX), ("Y range", p.rangeY), ("Trace width", toString p.width),
   ("Resolution", toString p.resolution.x ++ "x" ++ toString p.resolution.y),
   ("Registers", " ".intercalate (p.registers.map settingText)),
   ("Rocker switch", toString p.hasRocker), ("Parity check", toString p.parityCheck),
   ("Jumpy cursor", toString p.jumpyCursor), ("Reports pressure", toString p.reportsPressure),
   ("Debug level", toString p.debug)]

def table (p : Profile) : Table where
  panel := "Elantech Touchpad"
  header := ["property", "value"]
  rows := p.properties.map fun property => [property.1, property.2]

end Touchpad.Profile
