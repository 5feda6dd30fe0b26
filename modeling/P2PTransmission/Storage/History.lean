import P2PTransmission.Foundation.Run
import P2PTransmission.Storage.Writing

/-!
# Histories of the store

A history is a run of the three calls that write sessions and rooms, from the empty database. `Sound` is what holds in
every state of every history, whatever the calls were: room codes are unique, a join request refers to a stored room,
and no row says that the owner of a room asks to join it.
-/

set_option autoImplicit false

namespace P2PTransmission

namespace Storage

/-- The calls that write. A room is inserted as `Room.create` returned it, as `AppServices::create_room` does. -/
inductive Call where
  | insertSession (session : Session) (now : Nat)
  | insertRoom (id : RoomId) (code : RoomCode) (owner : SessionId) (createdAt expiresAt : Nat)
      (createRequestId : RequestId) (now : Nat)
  | applyRoomCommand (code : RoomCode) (expectedRevision : Option Nat) (command : RoomCommand) (now : Nat)

/-- The database after a call, whatever the call returned. -/
def Call.run : Call → Database → Database
  | .insertSession session now, db => (Storage.insertSession session now db).2
  | .insertRoom id code owner createdAt expiresAt createRequestId now, db =>
    match Room.create id code owner createdAt expiresAt with
    | .ok (room, _) => (Storage.insertRoom room createRequestId now db).2
    | .error _ => db
  | .applyRoomCommand code expectedRevision command now, db =>
    (Storage.applyRoomCommand code expectedRevision command now db).2

def Call.step (db : Database) (call : Call) (db' : Database) : Prop := call.run db = db'

/-- The states of the histories. -/
def Reachable (db : Database) : Prop := ∃ calls, Run Call.step Database.empty calls db

end Storage

open Storage

variable {db db' : Database} {room : Room} {now : Nat} {code : RoomCode} {command : RoomCommand}

/-! ## What a call did to the rows that are there -/

/-- A request row after a write: the row that was there, rewritten at most, or a request of the room. -/
theorem Persisted.requestRow (h : Persisted db room now db') {id : String} {row : JoinRequestRow}
    (hrow : db'.joinRequests[id]? = some row) :
    (∃ old, db.joinRequests[id]? = some old ∧ row.roomId = old.roomId ∧ row.sessionId = old.sessionId) ∨
      (db.joinRequests[id]? = none ∧ ∃ (q : RequestId) (r : JoinRequest), id = q.value ∧
        room.joinRequests[q]? = some r ∧ row = JoinRequestRow.inserted room.id r now) := by
  by_cases hwritten : ∃ (q : RequestId) (r : JoinRequest), room.joinRequests[q]? = some r ∧ id = q.value
  · obtain ⟨q, r, hr, rfl⟩ := hwritten
    rw [h.request q r hr] at hrow
    cases hold : db.joinRequests[q.value]? with
    | none =>
      rw [hold] at hrow
      exact .inr ⟨rfl, q, r, rfl, hr, (Option.some.inj hrow).symm⟩
    | some old =>
      rw [hold] at hrow
      have he : JoinRequestRow.rewritten r now old = row := Option.some.inj hrow
      subst he
      exact .inl ⟨old, rfl, rfl, rfl⟩
  · rw [h.requestOther id fun q r hr he => hwritten ⟨q, r, hr, he⟩] at hrow
    exact .inl ⟨row, hrow, rfl, rfl⟩

/-- A request row that is there stays there. -/
theorem Persisted.keepsRequestRow (h : Persisted db room now db') {id : String} {old : JoinRequestRow}
    (hold : db.joinRequests[id]? = some old) :
    ∃ row, db'.joinRequests[id]? = some row ∧ row.roomId = old.roomId ∧ row.sessionId = old.sessionId := by
  by_cases hwritten : ∃ (q : RequestId) (r : JoinRequest), room.joinRequests[q]? = some r ∧ id = q.value
  · obtain ⟨q, r, hr, rfl⟩ := hwritten
    exact ⟨JoinRequestRow.rewritten r now old, (h.request q r hr).trans (by rw [hold]; rfl), rfl, rfl⟩
  · exact ⟨old, (h.requestOther id fun q r hr he => hwritten ⟨q, r, hr, he⟩).trans hold, rfl, rfl⟩

/-- A room row after a command: its code and its owner are the old ones. -/
theorem Committed.roomRow {before : Nat} (h : Committed db before room now db') {id : String} {row : RoomRow} :
    db'.rooms[id]? = some row ↔ ∃ old, db.rooms[id]? = some old ∧
      row = if room.id.value = id then RoomRow.updated room now old else old := by
  obtain ⟨old, hold, -, hp⟩ := h
  rw [hp.rooms, BTreeMap.getElem?_insert]
  split
  · rename_i he
    subst he
    rw [hold]
    simp [eq_comm]
  · simp

theorem Committed.keepsRoomRow {before : Nat} (h : Committed db before room now db') {id : String} {old : RoomRow}
    (hold : db.rooms[id]? = some old) :
    ∃ row, db'.rooms[id]? = some row ∧ row.code = old.code ∧ row.ownerSessionId = old.ownerSessionId ∧
      row.createRequestId = old.createRequestId := by
  refine ⟨_, h.roomRow.mpr ⟨old, hold, rfl⟩, ?_⟩
  split <;> exact ⟨rfl, rfl, rfl⟩

/-! The children of the room are written as `Persisted` says; the room row does not matter to them. -/

theorem Committed.member {before : Nat} (h : Committed db before room now db') {s : SessionId} {m : Membership}
    (hm : room.memberships[s]? = some m) : db'.roomMembers[(⟨room.id.value, s.value⟩ : MemberKey)]? =
      some (MemberRow.write m now db.roomMembers[(⟨room.id.value, s.value⟩ : MemberKey)]?) := by
  obtain ⟨_, -, -, hp⟩ := h
  exact hp.member s m hm

theorem Committed.memberOther {before : Nat} (h : Committed db before room now db') {key : MemberKey}
    (hkey : ∀ (s : SessionId) (m : Membership), room.memberships[s]? = some m → key ≠ ⟨room.id.value, s.value⟩) :
    db'.roomMembers[key]? = db.roomMembers[key]? := by
  obtain ⟨_, -, -, hp⟩ := h
  exact hp.memberOther key hkey

theorem Committed.request {before : Nat} (h : Committed db before room now db') {q : RequestId} {r : JoinRequest}
    (hr : room.joinRequests[q]? = some r) :
    db'.joinRequests[q.value]? = some (JoinRequestRow.write room.id r now db.joinRequests[q.value]?) := by
  obtain ⟨_, -, -, hp⟩ := h
  exact hp.request q r hr

theorem Committed.requestOther {before : Nat} (h : Committed db before room now db') {id : String}
    (hid : ∀ (q : RequestId) (r : JoinRequest), room.joinRequests[q]? = some r → id ≠ q.value) :
    db'.joinRequests[id]? = db.joinRequests[id]? := by
  obtain ⟨_, -, -, hp⟩ := h
  exact hp.requestOther id hid

/-! ## The invariant of histories -/

structure Sound (db : Database) : Prop where
  codeUnique : db.CodeUnique
  requestRoom : ∀ (id : String) (row : JoinRequestRow), db.joinRequests[id]? = some row →
    ∃ roomRow, db.rooms[row.roomId]? = some roomRow
  requestOwner : ∀ (id : String) (row : JoinRequestRow) (roomRow : RoomRow), db.joinRequests[id]? = some row →
    db.rooms[row.roomId]? = some roomRow → row.sessionId ≠ roomRow.ownerSessionId

theorem Sound.empty : Sound Database.empty := by
  constructor <;> simp [Database.CodeUnique, Database.empty]

/-- The rows of rooms and join requests are what the invariant speaks of. -/
theorem Sound.of_same (h : Sound db) (hrooms : db'.rooms = db.rooms) (hrequests : db'.joinRequests = db.joinRequests) :
    Sound db' := by
  constructor
  · rw [Database.CodeUnique, hrooms]
    exact h.codeUnique
  · rw [hrooms, hrequests]
    exact h.requestRoom
  · rw [hrooms, hrequests]
    exact h.requestOwner

theorem insertSession_sound (h : Sound db) (session : Session) (now : Nat) : Sound (insertSession session now db).2 := by
  cases hr : insertSession session now db with
  | mk result db' =>
    cases result with
    | error e => exact (transaction_error hr).symm ▸ h
    | ok u =>
      have hbody := transaction_ok hr
      obtain ⟨_, -, hbody⟩ := bind_ok.mp hbody
      obtain ⟨_, -, hbody⟩ := bind_ok.mp hbody
      obtain ⟨_, -, hbody⟩ := bind_ok.mp hbody
      obtain ⟨sessions, -, hbody⟩ := bind_ok.mp hbody
      cases hbody
      exact h.of_same rfl rfl

/-- What `insertRoom` leaves. -/
theorem insertRoom_ok {createRequestId : RequestId}
    (h : insertRoom room createRequestId now db = (.ok (), db')) :
    ∃ row : RoomRow, row.Holds room ∧ row.createRequestId = createRequestId.value ∧ db.rooms[room.id.value]? = none ∧
      (∀ (id : String) (other : RoomRow), db.rooms[id]? = some other → other.code ≠ room.code.value) ∧
      Persisted { db with rooms := db.rooms.insert room.id.value row } room now db' := by
  have hbody := transaction_ok h
  obtain ⟨revision, hrevision, hbody⟩ := bind_ok.mp hbody
  obtain ⟨createdAtMs, -, hbody⟩ := bind_ok.mp hbody
  obtain ⟨expiresAtMs, hexpires, hbody⟩ := bind_ok.mp hbody
  obtain ⟨updatedAtMs, -, hbody⟩ := bind_ok.mp hbody
  obtain ⟨rooms, hinsert, hbody⟩ := bind_ok.mp hbody
  obtain ⟨db₂, hpersist, hbody⟩ := bind_ok.mp hbody
  cases hbody
  obtain ⟨-, hnone, hclash, -, rfl⟩ := Table.insert_ok.mp (mapWrite_ok hinsert)
  refine ⟨_, ⟨rfl, rfl, rfl, sqlInteger_ok hrevision, sqlInteger_ok hexpires⟩, rfl, hnone, fun id other hother hcode => ?_,
    persistRoomChildren_ok hpersist⟩
  have hid : id ≠ room.id.value := by
    rintro rfl
    rw [hnone] at hother
    cases hother
  exact Database.code_of_clash hclash hother hid hcode

theorem create_requests {id : RoomId} {owner : SessionId} {createdAt expiresAt : Nat} {outcome : RoomCommandOutcome}
    (h : Room.create id code owner createdAt expiresAt = .ok (room, outcome)) (q : RequestId) :
    room.joinRequests[q]? = none := by
  unfold Room.create at h
  split at h
  · cases h
  · cases h
    exact Std.ExtTreeMap.getElem?_empty

theorem insertRoom_sound (h : Sound db) {createRequestId : RequestId}
    (hempty : ∀ q : RequestId, room.joinRequests[q]? = none) : Sound (insertRoom room createRequestId now db).2 := by
  cases hr : insertRoom room createRequestId now db with
  | mk result db' =>
    cases result with
    | error e => exact (transaction_error hr).symm ▸ h
    | ok u =>
      obtain ⟨row, hholds, -, hnone, hfree, hp⟩ := insertRoom_ok hr
      have hrooms : ∀ id : String, db'.rooms[id]? = if room.id.value = id then some row else db.rooms[id]? := by
        intro id
        rw [hp.rooms, BTreeMap.getElem?_insert]
      -- the new room has no requests, so the request rows are the old ones, and none of them is of the new room
      have hold : ∀ (id : String) (request : JoinRequestRow), db'.joinRequests[id]? = some request →
          db.joinRequests[id]? = some request := by
        intro id request hrequest
        rw [hp.requestOther id fun q r hr => by rw [hempty q] at hr; cases hr] at hrequest
        exact hrequest
      have hother : ∀ (id : String) (request : JoinRequestRow), db.joinRequests[id]? = some request →
          room.id.value ≠ request.roomId := by
        intro id request hrequest he
        obtain ⟨roomRow, hroomRow⟩ := h.requestRoom id request hrequest
        rw [← he, hnone] at hroomRow
        cases hroomRow
      refine ⟨fun id id' a b ha hb hcode => ?_, fun id request hrequest => ?_, fun id request roomRow hrequest hroom => ?_⟩
      · rw [hrooms] at ha hb
        split at ha <;> split at hb
        · rename_i h₁ h₂
          rw [← h₁, ← h₂]
        · cases ha
          exact absurd (hcode.symm.trans hholds.code) (hfree _ _ hb)
        · cases hb
          exact absurd (hcode.trans hholds.code) (hfree _ _ ha)
        · exact h.codeUnique id id' a b ha hb hcode
      · obtain ⟨roomRow, hroomRow⟩ := h.requestRoom id request (hold id request hrequest)
        exact ⟨roomRow, by rw [hrooms, if_neg (hother id request (hold id request hrequest))]; exact hroomRow⟩
      · rw [hrooms, if_neg (hother id request (hold id request hrequest))] at hroom
        exact h.requestOwner id request roomRow (hold id request hrequest) hroom

/-! ## A command on a stored room -/

/-- The row of a loaded room. -/
theorem loadRoomOn_row (h : loadRoomOn db code = .ok (some room)) :
    ∃ row, db.rooms[room.id.value]? = some row ∧ row.Holds room := by
  obtain ⟨⟨row, hselect, hholds⟩, -⟩ := loadRoomAt_some.mp h
  exact ⟨row, (Database.selectRoom_some hselect).1, hholds⟩

theorem applyRoomCommand_sound (h : Sound db) (expected : Option Nat) :
    Sound (applyRoomCommand code expected command now db).2 := by
  cases hr : applyRoomCommand code expected command now db with
  | mk result db' =>
    cases result with
    | error e => exact (transaction_error hr).symm ▸ h
    | ok mutation =>
      obtain ⟨loaded, hload, -, hhandle, ⟨-, rfl⟩ | ⟨houtcome, hcommit⟩⟩ := applyRoomCommand_ok hr
      · exact h
      rw [houtcome] at hhandle
      obtain ⟨effected, heffect, hroom⟩ := Room.handle_changed hhandle
      have hid : mutation.room.id = loaded.id := by
        rw [hroom]
        exact heffect.same.id
      have hrequests : mutation.room.joinRequests = effected.joinRequests := by rw [hroom]
      obtain ⟨-, -, -, hstored, hverified, -⟩ := loadRoomAt_some.mp hload
      obtain ⟨row, hrow, hholds⟩ := loadRoomOn_row hload
      obtain ⟨old, hold, -, hp⟩ := id hcommit
      -- a row that is inserted is a new request, and the owner, who is a member, cannot have made it
      have hinserted : ∀ (q : RequestId) (r : JoinRequest), mutation.room.joinRequests[q]? = some r →
          db.joinRequests[q.value]? = none → r.sessionId ≠ loaded.owner := by
        intro q r hr hnone he
        have hfresh : loaded.joinRequests[q]? = none := by
          cases hl : loaded.joinRequests[q]? with
          | none => rfl
          | some r' =>
            obtain ⟨row', hrow', -⟩ := hstored.stored q r' hl
            rw [hnone] at hrow'
            cases hrow'
        rw [hrequests] at hr
        obtain ⟨_, -, -, houtside, -⟩ := heffect.newRequest hr hfresh
        obtain ⟨o, ho, -, hleft⟩ := hverified.owner
        exact hleft (houtside o (by rw [he]; exact ho))
      refine ⟨fun id id' a b ha hb hcode => ?_, fun id request hrequest => ?_, fun id request roomRow hrequest hroom => ?_⟩
      · obtain ⟨a', ha', rfl⟩ := hcommit.roomRow.mp ha
        obtain ⟨b', hb', rfl⟩ := hcommit.roomRow.mp hb
        refine h.codeUnique id id' a' b' ha' hb' ?_
        split at hcode <;> split at hcode <;> exact hcode
      · rcases hp.requestRow hrequest with ⟨request', hrequest', hsame, -⟩ | ⟨-, q, r, -, -, rfl⟩
        · obtain ⟨roomRow, hroomRow⟩ := h.requestRoom id request' hrequest'
          obtain ⟨row', hrow', -⟩ := hcommit.keepsRoomRow hroomRow
          exact ⟨row', by rw [hsame]; exact hrow'⟩
        · obtain ⟨row', hrow', -⟩ := hcommit.keepsRoomRow hold
          exact ⟨row', hrow'⟩
      · obtain ⟨roomRow', hroomRow', rfl⟩ := hcommit.roomRow.mp hroom
        have howner : (if mutation.room.id.value = request.roomId then RoomRow.updated mutation.room now roomRow'
            else roomRow').ownerSessionId = roomRow'.ownerSessionId := by split <;> rfl
        rw [howner]
        rcases hp.requestRow hrequest with ⟨request', hrequest', hsame, hsession⟩ | ⟨hnone, q, r, rfl, hr', rfl⟩
        · rw [hsession]
          exact h.requestOwner id request' roomRow' hrequest' (by rw [← hsame]; exact hroomRow')
        · have hroomRow' : db.rooms[mutation.room.id.value]? = some roomRow' := hroomRow'
          rw [hid, hrow] at hroomRow'
          cases hroomRow'
          rw [hholds.owner]
          intro he
          exact hinserted q r hr' hnone (Identifier.ext he)

theorem Sound.call (h : Sound db) (call : Call) : Sound (call.run db) := by
  cases call with
  | insertSession session now => exact insertSession_sound h session now
  | insertRoom id code owner createdAt expiresAt createRequestId now =>
    simp only [Call.run]
    split
    · rename_i hcreate
      exact insertRoom_sound h (create_requests hcreate)
    · exact h
  | applyRoomCommand code expected command now => exact applyRoomCommand_sound h expected

/-- **Every reachable database is sound.** -/
theorem Storage.Reachable.sound (h : Reachable db) : Sound db := by
  obtain ⟨calls, hrun⟩ := h
  exact hrun.invariant (fun _ call _ hs he => by subst he; exact hs.call call) Sound.empty

end P2PTransmission
