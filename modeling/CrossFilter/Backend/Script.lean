import CrossFilter.Backend.Service

/-!
# Scripted backends

A backend that answers from prepared lists, one for each endpoint, and keeps the messages that
reach it. Each message takes the first reply of its endpoint's list, and the last one stays. A
missing reply stands for a connection that fails; no message arrives over one.
-/

namespace CrossFilter.Backend

structure Script where
  replies : Endpoint → List (Option Reply)
  /-- Whether connections can be opened at all. -/
  reachable : Bool := true
  /-- The messages that arrived, in order. -/
  received : List Message := []

namespace Script

/-- Gives an endpoint another list of replies. -/
def setReplies (s : Script) (e : Endpoint) (replies : List (Option Reply)) : Script :=
  { s with replies := fun e' => if e' = e then replies else s.replies e' }

/-- The list without the reply that was taken, the last one aside. -/
def advance : List (Option Reply) → List (Option Reply)
  | _ :: r :: rest => r :: rest
  | replies => replies

def refused : String := "connection refused"

/-- Carries a message to the backend and the reply back. -/
def send (msg : Message) : StateM Script (Except String Reply) := fun s =>
  if s.reachable then
    let s' := s.setReplies msg.endpoint (advance (s.replies msg.endpoint))
    match s.replies msg.endpoint with
    | some reply :: _ => (.ok reply, { s' with received := s.received ++ [msg] })
    | _ => (.error refused, s')
  else (.error refused, s)

end Script

end CrossFilter.Backend
