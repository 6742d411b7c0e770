import Touchpad.Bus.Transport

/-!
# A transport that follows a script

Every command is acknowledged and every read takes the next byte of a queue. A request that reads
more than the queue holds takes what is there and fails; only requests that succeed are kept in the
history. Recorded sessions are replayed on this transport.
-/

namespace Touchpad

/-- The bytes that are still to be read, and the requests that succeeded. -/
structure Script where
  replies : List UInt8
  history : List Request
  deriving DecidableEq, Repr

namespace Script

def ofReplies (bs : List UInt8) : Script := ⟨bs, []⟩

def push (s : Script) (bs : List UInt8) : Script := { s with replies := s.replies ++ bs }

/-- The command bytes of all requests that succeeded, in order. -/
def sent (s : Script) : List UInt8 := s.history.flatMap Request.commands

def remaining (s : Script) : Nat := s.replies.length

/-- Takes one byte for each read of the request. -/
def submit (s : Script) (r : Request) : Submission Script :=
  let taken := s.replies.take r.readCount
  if s.replies.length < r.readCount then
    { outcome := .error .exhausted, taken, state := { s with replies := [] } }
  else
    let filled := r.fill taken
    { outcome := .ok ()
      taken
      state := ⟨s.replies.drop r.readCount, s.history ++ [filled]⟩
      notes := [Log.trace ("Scripted request: " ++ filled.spelled)] }

def transport : Transport Script := ⟨submit⟩

end Script

end Touchpad
