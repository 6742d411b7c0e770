import Touchpad.Report.Table
import Touchpad.Stream.Event

/-!
# The table of a decoded session
-/

namespace Touchpad.Event

def row (e : Event) (index : Nat) : List String :=
  [toString index, e.kind.name, toString e.dx, toString e.dy, e.buttons.text]

/-- The table of events under the name of the session. -/
def table (name : String) (events : List Event) : Table where
  panel := name
  header := ["index", "event", "dx", "dy", "buttons"]
  rows := events.mapIdx fun index e => e.row index

end Touchpad.Event
