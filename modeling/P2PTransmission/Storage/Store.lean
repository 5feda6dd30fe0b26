import P2PTransmission.Storage.Schema

/-!
# The store

`Storage` runs domain commands on stored rooms. A room is loaded with three `SELECT`s (`loadRoomAt` takes the database
that each of them sees), and `applyRoomCommand` loads a room, runs one command on it and writes the room back, all in
one transaction. Statements that write are folded over the snapshots of the room, so a statement that fails ends the
call, and the transaction forgets what was written before it.
-/

set_option autoImplicit false

namespace P2PTransmission

/-! ## Rows to values -/

structure DecodedRoom where
  id : RoomId
  code : RoomCode
  owner : SessionId
  state : RoomState
  revision : Nat
  expiresAt : Nat

def decodeRoom (id : String) (row : RoomRow) : Except StorageError DecodedRoom := do
  let id ← decodeId "rooms.id" "room id" id
  let code ← decodeRoomCode "rooms.code" row.code
  let owner ← decodeId "rooms.owner_session_id" "session id" row.ownerSessionId
  let state ← parseRoomState row.state
  let revision ← unsignedSqlInteger row.revision "rooms.revision"
  let expiresAt ← unsignedSqlInteger row.expiresAtMs "rooms.expires_at_ms"
  return { id, code, owner, state, revision, expiresAt }

def decodeMembership (e : MemberKey × MemberRow) : Except StorageError RoomMembershipSnapshot := do
  let sessionId ← decodeId "room_members.session_id" "session id" e.1.sessionId
  let role ← parseMembershipRole e.2.role
  let state ← decodeMembershipState e.2.state e.2.peerId
  return { sessionId, role, state }

def decodeJoinRequest (e : String × JoinRequestRow) : Except StorageError RoomJoinRequestSnapshot := do
  let requestId ← decodeId "join_requests.id" "request id" e.1
  let sessionId ← decodeId "join_requests.session_id" "session id" e.2.sessionId
  let state ← parseJoinRequestState e.2.state
  let expiresAt ← unsignedSqlInteger e.2.expiresAtMs "join_requests.expires_at_ms"
  return { requestId, sessionId, expiresAt, state }

/-- What `map_write_error` makes of the violation of a constraint. -/
def mapWriteError : ConstraintError → StorageError
  | .unique => .uniqueConflict
  | .foreignKey => .foreignKeyViolation
  | .check => .database

def mapWrite {α : Type} : Except ConstraintError α → Except StorageError α
  | .ok a => .ok a
  | .error error => .error (mapWriteError error)

/-! ## Loading -/

/-- Load a room with three `SELECT`s that see the databases `first`, `second` and `third`. -/
def loadRoomAt (first second third : Database) (code : RoomCode) : Except StorageError (Option Room) :=
  match first.selectRoom code.value with
  | none => .ok none
  | some (id, row) => do
    let decoded ← decodeRoom id row
    let memberships ← (second.selectMembers decoded.id.value).mapM decodeMembership
    let requests ← (third.selectJoinRequests decoded.id.value).mapM decodeJoinRequest
    match Room.restore decoded.id decoded.code decoded.owner decoded.expiresAt decoded.state decoded.revision
        memberships requests with
    | .ok room => .ok (some room)
    | .error error => .error (.corruptRoom error)

/-- `load_room_on` inside a transaction: no one else writes between the `SELECT`s. -/
def loadRoomOn (db : Database) (code : RoomCode) : Except StorageError (Option Room) := loadRoomAt db db db code

/-! ## Writing -/

def persistMembership (room : Room) (now : Nat) (db : Database) (membership : RoomMembershipSnapshot) :
    Except StorageError Database := do
  let (state, peerId) := membershipStateParts membership.state
  let createdAtMs ← sqlInteger now
  let updatedAtMs ← sqlInteger now
  let row : MemberRow := { role := membershipRoleText membership.role, state, peerId, createdAtMs, updatedAtMs }
  let roomMembers ← mapWrite (Table.upsert db.memberConstraints
    (fun old => { old with role := row.role, state := row.state, peerId := row.peerId, updatedAtMs := row.updatedAtMs })
    { roomId := room.id.value, sessionId := membership.sessionId.value } row db.roomMembers)
  return { db with roomMembers }

def persistJoinRequest (room : Room) (now : Nat) (db : Database) (request : RoomJoinRequestSnapshot) :
    Except StorageError Database := do
  let insertCreatedAt := min now (request.expiresAt - 1)
  let createdAtMs ← sqlInteger insertCreatedAt
  let expiresAtMs ← sqlInteger request.expiresAt
  let updatedAtMs ← sqlInteger now
  let row : JoinRequestRow :=
    { roomId := room.id.value, sessionId := request.sessionId.value, state := joinRequestStateText request.state
      createdAtMs, expiresAtMs, updatedAtMs }
  -- the conflict target is the request id alone, and the room of the row that is there does not matter
  let joinRequests ← mapWrite (Table.upsert db.joinRequestConstraints
    (fun old => { old with state := row.state, expiresAtMs := row.expiresAtMs, updatedAtMs := row.updatedAtMs })
    request.requestId.value row db.joinRequests)
  return { db with joinRequests }

def persistRoomChildren (room : Room) (now : Nat) (db : Database) : Except StorageError Database := do
  let db ← room.membershipSnapshots.foldlM (persistMembership room now) db
  room.joinRequestSnapshots.foldlM (persistJoinRequest room now) db

def currentRevision (db : Database) (roomId : RoomId) : Except StorageError Nat :=
  match db.rooms[roomId.value]? with
  | some row => unsignedSqlInteger row.revision "rooms.revision"
  | none => .error .database

/-- `UPDATE rooms SET … WHERE id = ? AND revision = ?`, with the number of rows it changed. -/
def updateRoom (room : Room) (before now : Nat) (db : Database) : Except StorageError (Database × Nat) := do
  let state := roomStateText room.state
  let revision ← sqlInteger room.revision
  let expiresAtMs ← sqlInteger room.expiresAt
  let updatedAtMs ← sqlInteger now
  let expected ← sqlInteger before
  match Table.update db.roomConstraints (fun old => { old with state, revision, expiresAtMs, updatedAtMs })
      room.id.value (fun old => old.revision = expected) db.rooms with
  | .ok (rooms, rowsAffected) => return ({ db with rooms }, rowsAffected)
  | .error _ => .error .database

/-! ## The calls -/

namespace Storage

/-- Run the body of a transaction: its writes are kept if it succeeds and rolled back if it fails. -/
def transaction {α : Type} (body : Database → Except StorageError (α × Database)) (db : Database) :
    Except StorageError α × Database :=
  match body db with
  | .ok (a, db') => (.ok a, db')
  | .error error => (.error error, db)

def insertSessionOn (session : Session) (now : Nat) (db : Database) : Except StorageError (Unit × Database) := do
  let createdAtMs ← sqlInteger now
  let expiresAtMs ← sqlInteger session.expiresAt
  let updatedAtMs ← sqlInteger now
  let sessions ← mapWrite (Table.insert Database.sessionConstraints session.id.value
    { displayName := session.displayName.value, state := sessionStateText session.state
      createdAtMs, expiresAtMs, updatedAtMs } db.sessions)
  return ((), { db with sessions })

def insertSession (session : Session) (now : Nat) : Database → Except StorageError Unit × Database :=
  transaction (insertSessionOn session now)

def insertRoomOn (room : Room) (createRequestId : RequestId) (now : Nat) (db : Database) :
    Except StorageError (Unit × Database) := do
  let revision ← sqlInteger room.revision
  let createdAtMs ← sqlInteger now
  let expiresAtMs ← sqlInteger room.expiresAt
  let updatedAtMs ← sqlInteger now
  let rooms ← mapWrite (Table.insert db.roomConstraints room.id.value
    { code := room.code.value, ownerSessionId := room.owner.value, createRequestId := createRequestId.value
      state := roomStateText room.state, revision, createdAtMs, expiresAtMs, updatedAtMs } db.rooms)
  let db ← persistRoomChildren room now { db with rooms }
  return ((), db)

def insertRoom (room : Room) (createRequestId : RequestId) (now : Nat) :
    Database → Except StorageError Unit × Database :=
  transaction (insertRoomOn room createRequestId now)

structure RoomMutation where
  room : Room
  outcome : RoomCommandOutcome
  deriving DecidableEq

def applyRoomCommandOn (code : RoomCode) (expectedRevision : Option Nat) (command : RoomCommand) (now : Nat)
    (db : Database) : Except StorageError (RoomMutation × Database) := do
  match ← loadRoomOn db code with
  | none => .error .roomNotFound
  | some loaded =>
    let before := loaded.revision
    match expectedRevision.filter (· ≠ before) with
    | some expected => .error (.revisionConflict expected before)
    | none =>
      match loaded.handle command with
      | (.error error, _) => .error (.room error)
      | (.ok outcome, room) =>
        if outcome.changed then do
          let (db, rowsAffected) ← updateRoom room before now db
          if rowsAffected ≠ 1 then do
            let actual ← currentRevision db room.id
            .error (.revisionConflict before actual)
          else do
            let db ← persistRoomChildren room now db
            return ({ room, outcome }, db)
        else return ({ room, outcome }, db)

def applyRoomCommand (code : RoomCode) (expectedRevision : Option Nat) (command : RoomCommand) (now : Nat) :
    Database → Except StorageError RoomMutation × Database :=
  transaction (applyRoomCommandOn code expectedRevision command now)

/-- `find_room_by_code` has no transaction: each of its `SELECT`s sees the latest commit at its start. -/
def findRoomByCode (first second third : Database) (code : RoomCode) : Except StorageError (Option Room) :=
  loadRoomAt first second third code

end Storage

end P2PTransmission
