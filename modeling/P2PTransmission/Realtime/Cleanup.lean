import P2PTransmission.Realtime.Server

/-!
# The cleanup of attachments

`cleanup_attachments` works off a stack of attachments that the hub gave up: each is detached in the storage, and a
detach that changed the room is announced to the room, which may evict further connections. A switch is possible before
each transaction and before each broadcast.
-/

set_option autoImplicit false

namespace P2PTransmission

structure Cleanup where
  pending : List Attachment
  seen : List String
  /-- The room and the event of a detach that is committed and not announced yet. -/
  announcing : Option Broadcast
  deriving DecidableEq

/-- `format!("{}:{}:{}", …)` -/
def Attachment.key (attachment : Attachment) : String :=
  attachment.roomId.value ++ ":" ++ attachment.sessionId.value ++ ":" ++ attachment.peerId.value

namespace Cleanup

def of (initial : List Attachment) : Cleanup := { pending := initial, seen := [], announcing := none }

def Done (cleanup : Cleanup) : Prop := cleanup.pending = [] ∧ cleanup.announcing = none

instance (cleanup : Cleanup) : Decidable cleanup.Done :=
  inferInstanceAs (Decidable (cleanup.pending = [] ∧ cleanup.announcing = none))

/-- One round of the loop up to its transaction, for the attachment that `pending.pop()` gave. -/
def detach (cleanup : Cleanup) (attachment : Attachment) (choice : Choice) (server : Server) : Server × Cleanup :=
  let cleanup := { cleanup with pending := cleanup.pending.dropLast }
  if attachment.key ∈ cleanup.seen then (server, cleanup)
  else
    let cleanup := { cleanup with seen := attachment.key :: cleanup.seen }
    match choice.now with
    | none => (server, cleanup)
    | some _ =>
      match server.applyRoomCommand choice.fault attachment.roomCode none
          (.detach attachment.sessionId attachment.peerId) with
      | (.error _, server) => (server, cleanup)
      | (.ok mutation, server) =>
        if mutation.outcome.changed then
          let event := .peerOffline mutation.room.revision attachment.sessionId
          (server, { cleanup with announcing := some { roomId := attachment.roomId, message := event } })
        else (server, cleanup)

def step (cleanup : Cleanup) (choice : Choice) (server : Server) : Option (Server × Cleanup) :=
  match cleanup.announcing with
  | some event =>
    (server.broadcast event.roomId event.message choice.order).map fun (evicted, server) =>
      (server, { cleanup with announcing := none, pending := cleanup.pending ++ evicted })
  | none => cleanup.pending.getLast?.map fun attachment => cleanup.detach attachment choice server

end Cleanup

end P2PTransmission
