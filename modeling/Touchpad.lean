import Touchpad.Bus.Faulty
import Touchpad.Main
import Touchpad.Proofs.CommandLine.Alignment
import Touchpad.Proofs.CommandLine.Decoding
import Touchpad.Proofs.Control.Restart
import Touchpad.Proofs.Control.StartUp
import Touchpad.Proofs.Control.Stop
import Touchpad.Proofs.Stream.Motion
import Touchpad.Proofs.Stream.Reset
import Touchpad.Proofs.Stream.Insertion
import Touchpad.Proofs.Stream.Calls
import Touchpad.Proofs.Stream.Independence
import Touchpad.Proofs.Bus.Tolerance
import Touchpad.Proofs.Hardware.Wire
import Touchpad.Proofs.Control.Outcome
import Touchpad.Proofs.Settings.Preference
import Touchpad.Proofs.Stream.Layout
import Touchpad.Proofs.Control.Measuring
import Touchpad.Proofs.Bus.InStep
import Touchpad.Proofs.Hex.Rendering
import Touchpad.Proofs.Control.Recognition
import Touchpad.Proofs.Stream.Pairing
import Touchpad.Proofs.Stream.Parity
import Touchpad.Proofs.Control.Accesses
import Touchpad.Proofs.Settings.Candidates
import Touchpad.Proofs.Control.Persistence
