import Chatflow.Message

/-!
# Outboxes

An outbox keeps messages instead of sending them, for runs that only show what would be sent.  It
may be told to fail, and then keeps no message.
-/

namespace Chatflow

structure Outbox where
  failure : Option TransportError := none
  sent : List OutgoingMessage := []
  acknowledged : List String := []
deriving DecidableEq, Repr

namespace Outbox

/-- Keeps a message; receipts are numbered from 1. -/
def send (outbox : Outbox) (message : OutgoingMessage) :
    Except TransportError Receipt × Outbox :=
  match outbox.failure with
  | some failure => (.error failure, outbox)
  | none =>
    let sent := outbox.sent ++ [message]
    (.ok ⟨.ofNat sent.length⟩, { outbox with sent })

def acknowledge (outbox : Outbox) (callbackId : String) : Outbox :=
  { outbox with acknowledged := outbox.acknowledged ++ [callbackId] }

end Outbox

end Chatflow
