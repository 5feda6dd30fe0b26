import P2PTransmission.Services.CreateRoom

/-!
# Invites

`AppServices::create_invite` as the statements it makes on the table of invites, and the check that `request_join` makes of an
invite. The capability of an invite is the code of its room and request under a secret, so a call that is repeated finds or
derives it again; only its hash is stored. Between any two statements of a call the others may run.

The codes and the hashes are made outside the program: `Secrets` holds the two functions.
-/

set_option autoImplicit false

namespace P2PTransmission

/-- The message authentication code under the configured secret, if this can be used, and the hash of a capability. -/
structure Secrets (D : Type) where
  mac : Option (String → String)
  hash : String → D

structure InviteRow (D : Type) where
  roomId : String
  requestId : String
  capabilityHash : D
  createdAtMs : Int
  expiresAtMs : Int
  consumedAtMs : Option Int

abbrev InviteTable (D : Type) : Type := BTreeMap String (InviteRow D)

inductive InviteError where
  | clock
  | session (error : SessionError)
  | notFound
  | forbidden
  | secret
  | time (error : TimeError)
  | room (error : RoomError)
  | storage (error : StorageError)
  deriving DecidableEq

structure CreateInviteResponse where
  roomCode : RoomCode
  capability : String
  expiresAtMs : Nat
  deriving DecidableEq

section Statements

variable {D : Type} [DecidableEq D]

/-- What the code of a capability is made from. -/
def capabilityMessage (roomId : RoomId) (requestId : RequestId) : String := roomId.value ++ ":" ++ requestId.value

def deriveCapability (secrets : Secrets D) (roomId : RoomId) (requestId : RequestId) : Except InviteError String :=
  match secrets.mac with
  | none => .error .secret
  | some mac => .ok (mac (capabilityMessage roomId requestId))

def inviteConstraints (db : Database) : Constraints String (InviteRow D) where
  check row := 0 ≤ row.createdAtMs && row.createdAtMs < row.expiresAtMs && row.consumedAtMs.all (row.createdAtMs ≤ ·)
  clash table id row := table.toList.any fun e => e.1 ≠ id ∧ (e.2.capabilityHash = row.capabilityHash ∨
    (e.2.roomId = row.roomId ∧ e.2.requestId = row.requestId))
  references _ row := db.rooms.contains row.roomId

def insertInviteCapability (capabilityId : String) (roomId : RoomId) (requestId : RequestId) (capabilityHash : D)
    (now expiresAt : Nat) (db : Database) (table : InviteTable D) : Except StorageError (InviteTable D) := do
  let createdAtMs ← sqlInteger now
  let expiresAtMs ← sqlInteger expiresAt
  mapWrite (Table.insert (inviteConstraints db) capabilityId
    { roomId := roomId.value, requestId := requestId.value, capabilityHash, createdAtMs, expiresAtMs
      consumedAtMs := none } table)

/-- `SELECT expires_at_ms FROM invite_capabilities WHERE room_id = ? AND request_id = ?` -/
def findInviteExpiry (roomId : RoomId) (requestId : RequestId) (table : InviteTable D) :
    Except StorageError (Option Nat) :=
  match (table.filter fun _ row => row.roomId = roomId.value ∧ row.requestId = requestId.value).toList.head? with
  | none => .ok none
  | some (_, row) => (unsignedSqlInteger row.expiresAtMs "invite_capabilities.expires_at_ms").map some

end Statements

/-! ## Calls -/

/-- The next statement of a call. -/
inductive InvitePoint where
  | find
  | insert (expiresAt : Nat)
  /-- Another call has inserted the invite, or its hash or id is taken. -/
  | findAgain
  | returned (result : Except InviteError CreateInviteResponse)

structure InviteCall where
  /-- The room as `find_room_by_code` has read it. -/
  room : Room
  requestId : RequestId
  capability : String
  now : Nat
  point : InvitePoint

/-- What a call meets: the id that it generates, and whether SQLite fails it. -/
structure InviteChoice where
  capabilityId : String
  fault : Bool

namespace InviteCall

variable {D : Type} [DecidableEq D] (call : InviteCall)

def returns (result : Except InviteError CreateInviteResponse) : InviteCall := { call with point := .returned result }

def respond (expiresAtMs : Nat) : InviteCall :=
  call.returns (.ok { roomCode := call.room.code, capability := call.capability, expiresAtMs })

/-- What `create_invite` does before it looks at the invites. -/
def start (secrets : Secrets D) (owner : Session) (requestId : RequestId) (now : Option Nat)
    (found : Except StorageError (Option Room)) : Except InviteError InviteCall :=
  match now with
  | none => .error .clock
  | some now =>
    match owner.ensureActive now with
    | .error error => .error (.session error)
    | .ok () =>
      match found with
      | .error error => .error (.storage error)
      | .ok none => .error .notFound
      | .ok (some room) =>
        if room.owner ≠ owner.id ∨ room.state ≠ .active then .error .forbidden
        else match deriveCapability secrets room.id requestId with
          | .error error => .error error
          | .ok capability => .ok { room, requestId, capability, now, point := .find }

/-- The time up to which a new invite is valid. -/
def expiry (inviteTtl : Nat) : Except InviteError Nat :=
  match EpochMillis.checkedAdd call.now inviteTtl with
  | .error error => .error (.time error)
  | .ok requested =>
    if min requested call.room.expiresAt ≤ call.now then .error (.room .inactive)
    else .ok (min requested call.room.expiresAt)

def find (inviteTtl : Nat) (table : InviteTable D) : InviteCall :=
  match findInviteExpiry call.room.id call.requestId table with
  | .error error => call.returns (.error (.storage error))
  | .ok (some expiresAt) => call.respond expiresAt
  | .ok none =>
    match call.expiry inviteTtl with
    | .error error => call.returns (.error error)
    | .ok expiresAt => { call with point := .insert expiresAt }

def insert (secrets : Secrets D) (capabilityId : String) (expiresAt : Nat) (db : Database) (table : InviteTable D) :
    InviteTable D × InviteCall :=
  match insertInviteCapability capabilityId call.room.id call.requestId (secrets.hash call.capability) call.now expiresAt
      db table with
  | .ok table => (table, call.respond expiresAt)
  | .error .uniqueConflict => (table, { call with point := .findAgain })
  | .error error => (table, call.returns (.error (.storage error)))

def findAgain (table : InviteTable D) : InviteCall :=
  match findInviteExpiry call.room.id call.requestId table with
  | .error error => call.returns (.error (.storage error))
  | .ok none => call.returns (.error (.storage .uniqueConflict))
  | .ok (some expiresAt) => call.respond expiresAt

/-- The next statement of a call. -/
def step (secrets : Secrets D) (inviteTtl : Nat) (choice : InviteChoice) (db : Database) (table : InviteTable D) :
    Option (InviteTable D × InviteCall) :=
  match call.point with
  | .returned _ => none
  | .find => some (table, if choice.fault then call.returns (.error (.storage .database)) else call.find inviteTtl table)
  | .insert expiresAt =>
    if choice.fault then some (table, call.returns (.error (.storage .database)))
    else some (call.insert secrets choice.capabilityId expiresAt db table)
  | .findAgain => some (table, if choice.fault then call.returns (.error (.storage .database)) else call.findAgain table)

end InviteCall

/-! ## Runs -/

/-- The database, the invites and the calls of `create_invite`, each with a number. -/
structure Inviting (D : Type) where
  db : Database
  table : InviteTable D
  calls : BTreeMap Nat (Except InviteError InviteCall)

namespace Inviting

variable {D : Type} [DecidableEq D]

inductive Event where
  | createInvite (n : Nat) (owner : Session) (requestId : RequestId) (now : Option Nat)
      (found : Except StorageError (Option Room))
  | run (n : Nat) (choice : InviteChoice)
  /-- Any other call on the store. -/
  | storage (call : Storage.Call)

def initial (db : Database) : Inviting D := { db, table := ∅, calls := ∅ }

def step (secrets : Secrets D) (inviteTtl : Nat) (world : Inviting D) : Event → Option (Inviting D)
  | .createInvite n owner requestId now found =>
    if world.calls.contains n then none
    else some { world with calls := world.calls.insert n (InviteCall.start secrets owner requestId now found) }
  | .run n choice =>
    match world.calls[n]? with
    | some (.ok call) => (call.step secrets inviteTtl choice world.db world.table).map fun (table, call) =>
        { world with table, calls := world.calls.insert n (.ok call) }
    | _ => none
  | .storage call => some { world with db := call.run world.db }

def Step (secrets : Secrets D) (inviteTtl : Nat) (world : Inviting D) (event : Event) (world' : Inviting D) : Prop :=
  world.step secrets inviteTtl event = some world'

end Inviting

end P2PTransmission
