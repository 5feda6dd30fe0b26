import P2PTransmission.Storage.History

/-!
# Creating rooms

`AppServices::create_room` as the calls it makes on the store. A call first looks for the room that the same request has
created, then inserts rooms with new ids and codes until one is stored. Every unique index answers with the same
`uniqueConflict`, so after each conflict the call looks again. Between any two statements of a call the others may run.

An insertion that meets a conflict is recorded in `met`, with the database that it met.
-/

set_option autoImplicit false

namespace P2PTransmission

def ROOM_CODE_ATTEMPTS : Nat := 8

structure CreateRoomResponse where
  roomId : RoomId
  roomCode : RoomCode
  revision : Nat
  expiresAtMs : Nat
  deriving DecidableEq

def createRoomResponse (room : Room) : CreateRoomResponse :=
  { roomId := room.id, roomCode := room.code, revision := room.revision, expiresAtMs := room.expiresAt }

/-- The errors of the services that `create_room` returns. -/
inductive CreateRoomError where
  | clock
  | session (error : SessionError)
  | id (error : IdError)
  | time (error : TimeError)
  | room (error : RoomError)
  | storage (error : StorageError)
  | roomCodeExhausted
  deriving DecidableEq

/-- An insertion that met a conflict. -/
structure Attempt where
  id : RoomId
  code : RoomCode
  database : Database
  deriving DecidableEq

/-- The next statement of a call. -/
inductive CreatePoint where
  /-- `find_room_by_create_request` looks for the code of a room. -/
  | selectCode
  /-- `load_room_on` looks for the room with this code. -/
  | selectRoom (code : RoomCode)
  | selectMembers (decoded : DecodedRoom)
  | selectRequests (decoded : DecodedRoom) (memberships : List RoomMembershipSnapshot)
  | insert
  | returned (result : Except CreateRoomError CreateRoomResponse)

structure CreateCall where
  owner : Session
  requestId : RequestId
  now : Nat
  /-- How many insertions the loop has made. -/
  attempts : Nat
  point : CreatePoint
  met : List Attempt

/-- What a call meets: the id and the code that it generates, and whether SQLite fails it. -/
structure CreateChoice where
  id : RoomId
  code : RoomCode
  fault : Bool

/-- `SELECT code FROM rooms WHERE owner_session_id = ? AND create_request_id = ?` -/
def Database.selectCreated (db : Database) (owner createRequestId : String) : Option String :=
  (db.rooms.filter fun _ row => row.ownerSessionId = owner ∧ row.createRequestId = createRequestId).toList.head?.map
    fun e => e.2.code

namespace CreateCall

variable (call : CreateCall)

def goto (point : CreatePoint) : CreateCall := { call with point }

def returns (result : Except CreateRoomError CreateRoomResponse) : CreateCall := call.goto (.returned result)

def fail (error : CreateRoomError) : CreateCall := call.returns (.error error)

/-- The head of the loop, after no room was found. -/
def attempt : CreateCall :=
  if call.attempts < ROOM_CODE_ATTEMPTS then call.goto .insert else call.fail .roomCodeExhausted

def selectCode (db : Database) : CreateCall :=
  match db.selectCreated call.owner.id.value call.requestId.value with
  | none => call.attempt
  | some code =>
    match decodeRoomCode "rooms.code" code with
    | .error error => call.fail (.storage error)
    | .ok code => call.goto (.selectRoom code)

def selectRoom (db : Database) (code : RoomCode) : CreateCall :=
  match db.selectRoom code.value with
  | none => call.attempt
  | some (id, row) =>
    match decodeRoom id row with
    | .error error => call.fail (.storage error)
    | .ok decoded => call.goto (.selectMembers decoded)

def selectMembers (db : Database) (decoded : DecodedRoom) : CreateCall :=
  match (db.selectMembers decoded.id.value).mapM decodeMembership with
  | .error error => call.fail (.storage error)
  | .ok memberships => call.goto (.selectRequests decoded memberships)

def selectRequests (db : Database) (decoded : DecodedRoom) (memberships : List RoomMembershipSnapshot) : CreateCall :=
  match (db.selectJoinRequests decoded.id.value).mapM decodeJoinRequest with
  | .error error => call.fail (.storage error)
  | .ok requests =>
    match Room.restore decoded.id decoded.code decoded.owner decoded.expiresAt decoded.state decoded.revision
        memberships requests with
    | .error error => call.fail (.storage (.corruptRoom error))
    | .ok existing => call.returns (.ok (createRoomResponse existing))

/-- The transaction of an insertion, and what the loop does with its result. -/
def insertRoom (db : Database) (room : Room) : Database × CreateCall :=
  match Storage.insertRoom room call.requestId call.now db with
  | (.ok (), db') => (db', call.returns (.ok (createRoomResponse room)))
  | (.error .uniqueConflict, db') =>
    (db', { call with
      attempts := call.attempts + 1
      point := .selectCode
      met := { id := room.id, code := room.code, database := db } :: call.met })
  | (.error error, db') => (db', call.fail (.storage error))

def insert (roomTtl : Nat) (choice : CreateChoice) (db : Database) : Database × CreateCall :=
  match EpochMillis.checkedAdd call.now roomTtl with
  | .error error => (db, call.fail (.time error))
  | .ok expiresAt =>
    match Room.create choice.id choice.code call.owner.id call.now expiresAt with
    | .error error => (db, call.fail (.room error))
    | .ok (room, _) => if choice.fault then (db, call.fail (.storage .database)) else call.insertRoom db room

/-- The next statement of a call. -/
def step (roomTtl : Nat) (choice : CreateChoice) (db : Database) : Option (Database × CreateCall) :=
  match call.point with
  | .returned _ => none
  | .insert => some (call.insert roomTtl choice db)
  | .selectCode => some (db, if choice.fault then call.fail (.storage .database) else call.selectCode db)
  | .selectRoom code => some (db, if choice.fault then call.fail (.storage .database) else call.selectRoom db code)
  | .selectMembers decoded =>
    some (db, if choice.fault then call.fail (.storage .database) else call.selectMembers db decoded)
  | .selectRequests decoded memberships =>
    some (db, if choice.fault then call.fail (.storage .database) else call.selectRequests db decoded memberships)

/-- What `create_room` does before it looks at the store. -/
def start (owner : Session) (requestId : String) (now : Option Nat) : Except CreateRoomError CreateCall :=
  match now with
  | none => .error .clock
  | some now =>
    match owner.ensureActive now with
    | .error error => .error (.session error)
    | .ok () =>
      match Identifier.parse "request id" requestId with
      | .error error => .error (.id error)
      | .ok requestId => .ok { owner, requestId, now, attempts := 0, point := .selectCode, met := [] }

end CreateCall

/-! ## Runs -/

/-- The database and the calls of `create_room`, each with a number. A call that fails before it looks at the store
leaves its error. -/
structure Creation where
  roomTtl : Nat
  db : Database
  calls : BTreeMap Nat (Except CreateRoomError CreateCall)

namespace Creation

inductive Event where
  | createRoom (n : Nat) (owner : Session) (requestId : String) (now : Option Nat)
  | run (n : Nat) (choice : CreateChoice)
  /-- Any other call on the store. -/
  | storage (call : Storage.Call)

def initial (roomTtl : Nat) : Creation := { roomTtl, db := .empty, calls := ∅ }

def step (world : Creation) : Event → Option Creation
  | .createRoom n owner requestId now =>
    if world.calls.contains n then none
    else some { world with calls := world.calls.insert n (CreateCall.start owner requestId now) }
  | .run n choice =>
    match world.calls[n]? with
    | some (.ok call) => (call.step world.roomTtl choice world.db).map fun (db, call) =>
        { world with db, calls := world.calls.insert n (.ok call) }
    | _ => none
  | .storage call => some { world with db := call.run world.db }

def Step (world : Creation) (event : Event) (world' : Creation) : Prop := world.step event = some world'

end Creation

end P2PTransmission
