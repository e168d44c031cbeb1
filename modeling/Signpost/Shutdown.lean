/-!
# Shutdown

The end of a program is announced by a signal, which every part of it that listens receives on its
own. Only the latest signal is kept: a listener that comes too late for earlier ones learns how many
it missed.
-/

namespace Signpost

/-- A channel for signals. -/
structure Shutdown where
  /-- How many signals were sent. -/
  sent : Nat := 0
  /-- For each listener, in the order of subscription, how many signals it is done with; nothing, if
  it left. -/
  listeners : List (Option Nat) := []
  deriving DecidableEq, Repr, Inhabited

namespace Shutdown

/-- What a listener finds. -/
inductive Reception where
  /-- A signal. -/
  | signal
  /-- No signal. -/
  | empty
  /-- So many signals were missed. -/
  | lagged (missed : Nat)
  /-- The listener left, or there never was one. -/
  | dropped
  deriving DecidableEq, Repr

def listenerCount (s : Shutdown) : Nat := s.listeners.countP Option.isSome

/-- The channel with one more listener, for which the signals sent so far do not count. -/
def subscribe (s : Shutdown) : Shutdown := { s with listeners := s.listeners ++ [some s.sent] }

/-- The channel after a signal. One that nobody listens to is not sent. -/
def trigger (s : Shutdown) : Shutdown :=
  if s.listenerCount = 0 then s else { s with sent := s.sent + 1 }

def drop (s : Shutdown) (i : Nat) : Shutdown := { s with listeners := s.listeners.set i none }

/-- How many signals the listener is not yet done with. -/
def unseen? (s : Shutdown) (i : Nat) : Option Nat :=
  (s.listeners[i]?.join).map fun done => s.sent - done

/-- What the listener finds, and the channel after that. -/
def receive (s : Shutdown) (i : Nat) : Reception × Shutdown :=
  match s.unseen? i with
  | none => (.dropped, s)
  | some 0 => (.empty, s)
  | some 1 => (.signal, { s with listeners := s.listeners.set i (some s.sent) })
  | some (missed + 2) =>
    (.lagged (missed + 1), { s with listeners := s.listeners.set i (some (s.sent - 1)) })

end Shutdown

end Signpost
