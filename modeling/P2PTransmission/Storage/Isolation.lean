import P2PTransmission.Storage.History

/-!
# Isolation of rooms

A command on one room writes the rows of that room, with one exception. Requests are kept per room in the domain and
under their id alone in the table, so a new request whose id is taken by a row of another room (`ForeignRequest`) is
written over that row. `room_isolation_iff` says that this is the only way in which a committed command touches another
room.
-/

set_option autoImplicit false

namespace P2PTransmission

open Storage
open Room (ownerOne requestOne)

variable {db db' : Database} {room loaded : Room} {now : Nat} {code : RoomCode} {command : RoomCommand}

/-- The id of a request is taken by a row of a room other than the one with this code. -/
def ForeignRequest (db : Database) (code : RoomCode) (requestId : RequestId) (row : JoinRequestRow) : Prop :=
  db.joinRequests[requestId.value]? = some row ∧
    ∃ id roomRow, db.selectRoom code.value = some (id, roomRow) ∧ row.roomId ≠ id

/-- Every row of another room than `roomId` is as it was, and every other room loads as before. -/
structure Isolated (db db' : Database) (roomId : String) (code : RoomCode) : Prop where
  rooms : ∀ id : String, id ≠ roomId → db'.rooms[id]? = db.rooms[id]?
  members : ∀ key : MemberKey, key.roomId ≠ roomId → db'.roomMembers[key]? = db.roomMembers[key]?
  requests : ∀ (id : String) (row : JoinRequestRow), row.roomId ≠ roomId →
    (db'.joinRequests[id]? = some row ↔ db.joinRequests[id]? = some row)
  load : ∀ other : RoomCode, other ≠ code → loadRoomOn db' other = loadRoomOn db other

/-! ## Loads that see the same rows -/

theorem loadRoomOn_congr {other : RoomCode} (hselect : db'.selectRoom other.value = db.selectRoom other.value)
    (hrows : ∀ id row, db.selectRoom other.value = some (id, row) →
      db'.selectMembers id = db.selectMembers id ∧ db'.selectJoinRequests id = db.selectJoinRequests id) :
    loadRoomOn db' other = loadRoomOn db other := by
  unfold loadRoomOn loadRoomAt
  rw [hselect]
  split
  · rfl
  · rename_i id row hrow
    obtain ⟨hmembers, hrequests⟩ := hrows id row hrow
    cases hd : decodeRoom id row with
    | error e => rfl
    | ok decoded =>
      have hid : decoded.id.value = id := ((decodeRoom_ok (Database.selectRoom_some hrow).2).mp hd).1.symm
      rw [← hid] at hmembers hrequests
      simp only [bind, Except.bind, hmembers, hrequests]

/-- Rows that are unchanged load to the same rooms. -/
theorem Isolated.of_rows {roomId : String} {row row' : RoomRow} (hrow : db.rooms[roomId]? = some row)
    (hrow' : db'.rooms[roomId]? = some row') (hcode : row.code = code.value) (hcode' : row'.code = code.value)
    (rooms : ∀ id : String, id ≠ roomId → db'.rooms[id]? = db.rooms[id]?)
    (members : ∀ key : MemberKey, key.roomId ≠ roomId → db'.roomMembers[key]? = db.roomMembers[key]?)
    (requests : ∀ (id : String) (request : JoinRequestRow), request.roomId ≠ roomId →
      (db'.joinRequests[id]? = some request ↔ db.joinRequests[id]? = some request)) : Isolated db db' roomId code := by
  refine ⟨rooms, members, requests, fun other hother => ?_⟩
  have hne : ∀ text : String, text = code.value → text ≠ other.value := by
    rintro _ rfl he
    exact hother (RoomCode.ext he.symm)
  refine loadRoomOn_congr (Database.selectRoom_congr fun id a ha => ?_) fun id a hselect => ?_
  · by_cases hid : id = roomId
    · subst hid
      rw [hrow, hrow']
      constructor
      · rintro h; cases h; exact absurd ha (hne _ hcode')
      · rintro h; cases h; exact absurd ha (hne _ hcode)
    · rw [rooms id hid]
  · obtain ⟨ha, hacode⟩ := Database.selectRoom_some hselect
    have hid : id ≠ roomId := by
      rintro rfl
      rw [hrow] at ha
      cases ha
      exact hne _ hcode hacode
    constructor
    · exact Database.selectMembers_congr fun key hkey => members key (by rw [hkey]; exact hid)
    · exact Database.selectJoinRequests_congr fun request b hb => requests request b (by rw [hb]; exact hid)

theorem Isolated.refl (db : Database) (roomId : String) (code : RoomCode) : Isolated db db roomId code :=
  ⟨fun _ _ => rfl, fun _ _ => rfl, fun _ _ _ => Iff.rfl, fun _ _ => rfl⟩

/-! ## What a command writes -/

theorem Committed.rooms {before : Nat} (h : Committed db before room now db') {id : String} (hid : id ≠ room.id.value) :
    db'.rooms[id]? = db.rooms[id]? := by
  obtain ⟨old, -, -, hp⟩ := h
  rw [hp.rooms]
  exact BTreeMap.getElem?_insert_of_ne hid.symm

theorem Committed.members {before : Nat} (h : Committed db before room now db') {key : MemberKey}
    (hkey : key.roomId ≠ room.id.value) : db'.roomMembers[key]? = db.roomMembers[key]? := by
  refine h.memberOther fun s m _ => ?_
  rintro rfl
  exact hkey rfl

/-- The command on a loaded room that changed it. -/
structure Mutated (db : Database) (code : RoomCode) (loaded : Room) (command : RoomCommand) (room : Room) (now : Nat)
    (db' : Database) : Prop where
  load : loadRoomOn db code = .ok (some loaded)
  handle : loaded.handle command = (.ok .CHANGED, room)
  commit : Committed db loaded.revision room now db'

theorem Mutated.same (h : Mutated db code loaded command room now db') : Room.SameRoom loaded room := by
  obtain ⟨effected, heffect, rfl⟩ := Room.handle_changed h.handle
  exact ⟨heffect.same.id, heffect.same.code, heffect.same.owner, heffect.same.expiresAt⟩

/-- A request that the loaded room did not have is the one the command asks for. -/
theorem Mutated.newRequest (h : Mutated db code loaded command room now db') {q : RequestId} {r : JoinRequest}
    (hr : room.joinRequests[q]? = some r) (hfresh : loaded.joinRequests[q]? = none) :
    ∃ at', command = .requestJoin q r.sessionId at' r.expiresAt ∧ r.state = .pending := by
  obtain ⟨effected, heffect, rfl⟩ := Room.handle_changed h.handle
  obtain ⟨at', hcommand, hstate, -⟩ := heffect.newRequest hr hfresh
  exact ⟨at', hcommand, hstate⟩

theorem Mutated.keepsRequest (h : Mutated db code loaded command room now db') {q : RequestId} {r : JoinRequest}
    (hr : loaded.joinRequests[q]? = some r) : ∃ state, room.joinRequests[q]? = some { r with state } := by
  obtain ⟨effected, heffect, rfl⟩ := Room.handle_changed h.handle
  exact heffect.keepsRequest hr

/-- The row under the id of a request of the loaded room is a row of that room, and the other way round. -/
theorem Mutated.loaded_iff (h : Mutated db code loaded command room now db') {q : RequestId} {old : JoinRequestRow}
    (hold : db.joinRequests[q.value]? = some old) :
    (∃ r, loaded.joinRequests[q]? = some r) ↔ old.roomId = room.id.value := by
  obtain ⟨-, -, -, hstored, -⟩ := loadRoomAt_some.mp h.load
  rw [h.same.id]
  constructor
  · rintro ⟨r, hr⟩
    obtain ⟨row, hrow, hholds⟩ := hstored.stored q r hr
    rw [hold] at hrow
    cases hrow
    exact hholds.room
  · intro hroom
    obtain ⟨q', r, hq, hr⟩ := hstored.only q.value old hold hroom
    have hq : q = q' := Identifier.ext hq
    exact ⟨r, by rw [hq]; exact hr⟩

/-- A new request that a command asks for is not in the loaded room, and is pending in the new one. -/
theorem Mutated.requested (h : Mutated db code loaded command room now db') {q : RequestId} {s : SessionId}
    {at' expiresAt : Nat} (hcommand : command = .requestJoin q s at' expiresAt) :
    loaded.joinRequests[q]? = none ∧ room.joinRequests[q]? = some { sessionId := s, expiresAt, state := .pending } := by
  obtain ⟨effected, heffect, rfl⟩ := Room.handle_changed h.handle
  subst hcommand
  cases heffect with
  | requested _ _ _ hfresh => exact ⟨hfresh, (Room.joinRequests_setJoinRequest _ _ _ _).trans (if_pos rfl)⟩

/-- The row that is taken by another room is rewritten. -/
theorem Mutated.overwrites (h : Mutated db code loaded command room now db') {q : RequestId} {s : SessionId}
    {at' expiresAt : Nat} (hcommand : command = .requestJoin q s at' expiresAt) {old : JoinRequestRow}
    (hold : db.joinRequests[q.value]? = some old) :
    db'.joinRequests[q.value]? =
      some (JoinRequestRow.rewritten { sessionId := s, expiresAt, state := .pending } now old) := by
  rw [h.commit.request (h.requested hcommand).2, hold]
  rfl

/-- A foreign row is one of another room than the command's. -/
theorem Mutated.foreign_iff (h : Mutated db code loaded command room now db') {q : RequestId} {row : JoinRequestRow} :
    ForeignRequest db code q row ↔ db.joinRequests[q.value]? = some row ∧ row.roomId ≠ room.id.value := by
  obtain ⟨⟨roomRow, hselect, -⟩, -⟩ := loadRoomAt_some.mp h.load
  rw [h.same.id]
  constructor
  · rintro ⟨hrow, id, roomRow', hselect', hne⟩
    rw [hselect] at hselect'
    cases hselect'
    exact ⟨hrow, hne⟩
  · rintro ⟨hrow, hne⟩
    exact ⟨hrow, _, roomRow, hselect, hne⟩

/-- A command that writes over no foreign row leaves the other rooms alone. -/
theorem Mutated.isolated (h : Mutated db code loaded command room now db')
    (hforeign : ∀ (q : RequestId) (s : SessionId) (at' expiresAt : Nat) (row : JoinRequestRow),
      command = .requestJoin q s at' expiresAt → ForeignRequest db code q row →
      JoinRequestRow.rewritten { sessionId := s, expiresAt, state := .pending } now row = row) :
    Isolated db db' room.id.value code := by
  obtain ⟨row, hrow, hholds⟩ := loadRoomOn_row h.load
  obtain ⟨-, hcode, -⟩ := loadRoomAt_some.mp h.load
  rw [← h.same.id] at hrow
  obtain ⟨row', hrow', hcode', -⟩ := h.commit.keepsRoomRow hrow
  refine Isolated.of_rows hrow hrow' (by rw [hholds.code, hcode]) (by rw [hcode', hholds.code, hcode])
    (fun id hid => h.commit.rooms hid) (fun key hkey => h.commit.members hkey) fun id request hrequest => ?_
  by_cases hwritten : ∃ (q : RequestId) (r : JoinRequest), room.joinRequests[q]? = some r ∧ id = q.value
  · obtain ⟨q, r, hr, rfl⟩ := hwritten
    rw [h.commit.request hr]
    cases hold : db.joinRequests[q.value]? with
    | none =>
      -- a row that is inserted is the room's own
      constructor
      · intro he
        rw [← Option.some.inj he] at hrequest
        exact absurd rfl hrequest
      · intro he; cases he
    | some old =>
      have hwrite : JoinRequestRow.write room.id r now (some old) = JoinRequestRow.rewritten r now old := rfl
      rw [hwrite]
      by_cases hown : old.roomId = room.id.value
      · -- so is a row that the room had before
        constructor
        · intro he
          rw [← Option.some.inj he] at hrequest
          exact absurd hown hrequest
        · intro he
          rw [← Option.some.inj he] at hrequest
          exact absurd hown hrequest
      · have hfresh : loaded.joinRequests[q]? = none := by
          cases hl : loaded.joinRequests[q]? with
          | none => rfl
          | some r' => exact absurd ((h.loaded_iff hold).mp ⟨r', hl⟩) hown
        obtain ⟨at', hcommand, hstate⟩ := h.newRequest hr hfresh
        have hsame := hforeign q r.sessionId at' r.expiresAt old hcommand (h.foreign_iff.mpr ⟨hold, hown⟩)
        have hr' : JoinRequestRow.rewritten r now old = old := by
          rw [← hsame, ← hstate]
          rfl
        rw [hr']
  · rw [h.commit.requestOther fun q r hr he => hwritten ⟨q, r, hr, he⟩]

/-! ## Isolation -/

/-- The call of `applyRoomCommand` that changed a room. -/
theorem Storage.applyRoomCommand_mutated {expected : Option Nat} {mutation : RoomMutation}
    (h : applyRoomCommand code expected command now db = (.ok mutation, db')) :
    (mutation.outcome = .UNCHANGED ∧ db' = db ∧ loadRoomOn db code = .ok (some mutation.room) ∧
        mutation.room.handle command = (.ok .UNCHANGED, mutation.room)) ∨
      (mutation.outcome = .CHANGED ∧ ∃ loaded, Mutated db code loaded command mutation.room now db') := by
  obtain ⟨loaded, hload, -, hhandle, ⟨houtcome, rfl⟩ | ⟨houtcome, hcommit⟩⟩ := applyRoomCommand_ok h
  · rw [houtcome] at hhandle
    have hroom := Room.handle_unchanged hhandle
    exact .inl ⟨houtcome, rfl, by rw [hroom]; exact hload, by rw [hroom] at hhandle ⊢; exact hhandle⟩
  · rw [houtcome] at hhandle
    exact .inr ⟨houtcome, loaded, hload, hhandle, hcommit⟩

/-- A request that is not asked for anew is already there. -/
theorem requestJoin_unchanged {q : RequestId} {s : SessionId} {at' expiresAt : Nat}
    (h : room.handle (.requestJoin q s at' expiresAt) = (.ok .UNCHANGED, room)) :
    ∃ r, room.joinRequests[q]? = some r := by
  simp only [Room.handle, Room.requestJoin] at h
  split at h
  · cases h
  split at h
  · cases h
  split at h
  · rename_i r hr
    exact ⟨r, hr⟩
  split at h
  · cases h
  split at h
  · cases h
  rcases Room.commit_cases (room.setJoinRequest q { sessionId := s, expiresAt, state := .pending }) with hc | hc <;>
  · rw [h] at hc
    cases hc

/-- **Isolation of rooms.** A call that succeeds leaves the rows and the loads of the other rooms as they were, exactly
if it is not a new request whose id is taken by a row of another room that it changes. -/
theorem room_isolation_iff {expected : Option Nat} {mutation : RoomMutation} {roomId : String} {roomRow : RoomRow}
    (h : applyRoomCommand code expected command now db = (.ok mutation, db'))
    (hroom : db.selectRoom code.value = some (roomId, roomRow)) :
    Isolated db db' roomId code ↔
      ∀ (q : RequestId) (s : SessionId) (at' expiresAt : Nat) (row : JoinRequestRow),
        command = .requestJoin q s at' expiresAt → ForeignRequest db code q row →
        row.state = "pending" ∧ row.expiresAtMs = expiresAt ∧ row.updatedAtMs = now := by
  have hrewritten : ∀ (s : SessionId) (expiresAt : Nat) (row : JoinRequestRow),
      JoinRequestRow.rewritten { sessionId := s, expiresAt, state := .pending } now row = row ↔
        row.state = "pending" ∧ row.expiresAtMs = expiresAt ∧ row.updatedAtMs = now := by
    intro s expiresAt row
    obtain ⟨a, b, state, c, e, u⟩ := row
    simp only [JoinRequestRow.rewritten, joinRequestStateText, JoinRequestRow.mk.injEq, true_and]
    constructor
    · rintro ⟨rfl, rfl, rfl⟩; exact ⟨rfl, rfl, rfl⟩
    · rintro ⟨rfl, rfl, rfl⟩; exact ⟨rfl, rfl, rfl⟩
  rcases applyRoomCommand_mutated h with ⟨-, rfl, hload, hunchanged⟩ | ⟨-, loaded, hm⟩
  · refine ⟨fun _ q s at' expiresAt row hcommand hforeign => ?_, fun _ => Isolated.refl _ _ _⟩
    -- the request is there already, so the row under its id is the room's own
    subst hcommand
    obtain ⟨r, hr⟩ := requestJoin_unchanged hunchanged
    obtain ⟨⟨_, hselect, -⟩, -, -, hstored, -⟩ := loadRoomAt_some.mp hload
    obtain ⟨row', hrow', hholds⟩ := hstored.stored q r hr
    obtain ⟨hrow, id, _, hselect', hne⟩ := hforeign
    rw [hselect] at hselect'
    rw [hrow'] at hrow
    cases hselect'
    cases hrow
    exact absurd hholds.room hne
  · have hid : roomId = mutation.room.id.value := by
      obtain ⟨⟨_, hselect, -⟩, -⟩ := loadRoomAt_some.mp hm.load
      rw [hroom] at hselect
      cases hselect
      rw [hm.same.id]
    subst hid
    constructor
    · intro hisolated q s at' expiresAt row hcommand hforeign
      obtain ⟨hrow, hne⟩ := hm.foreign_iff.mp hforeign
      have hkept := (hisolated.requests q.value row hne).mpr hrow
      rw [hm.overwrites hcommand hrow] at hkept
      exact (hrewritten s expiresAt row).mp (Option.some.inj hkept)
    · intro hcondition
      exact hm.isolated fun q s at' expiresAt row hcommand hforeign =>
        (hrewritten s expiresAt row).mpr (hcondition q s at' expiresAt row hcommand hforeign)

/-! ## Two rooms -/

def ownerTwo : SessionId := .of "owner_2"

def guestOne : SessionId := .of "guest_1"

def guestTwo : SessionId := .of "guest_2"

def requestTwo : RequestId := .of "request_2"

def codeOne : RoomCode := .of "ABC234"

def codeTwo : RoomCode := .of "XYZ789"

/-- A session with the display name of every example. -/
def exampleSession (id : SessionId) : Session :=
  { id, displayName := ⟨"Alice", by decide⟩, expiresAt := 100000, state := .active }

/-- Two rooms with an owner each, and a request of a guest to join the first. -/
def twoRoomCalls : List Call :=
  [.insertSession (exampleSession ownerOne) 0, .insertSession (exampleSession ownerTwo) 0,
    .insertSession (exampleSession guestOne) 0, .insertSession (exampleSession guestTwo) 0,
    .insertRoom (.of "room_1") codeOne ownerOne 0 1000 (.of "create_1") 0,
    .insertRoom (.of "room_2") codeTwo ownerTwo 0 1000 (.of "create_2") 0,
    .applyRoomCommand codeOne none (.requestJoin requestOne guestOne 10 500) 10]

def twoRooms : Database := twoRoomCalls.foldl (fun db call => call.run db) Database.empty

theorem twoRooms_reachable : Reachable twoRooms := ⟨twoRoomCalls, Run.of_foldl _ _ _⟩

/-- The room in which the guest waits. -/
theorem waitingRoom_load : ∃ room, loadRoomOn twoRooms codeOne = .ok (some room) := by
  have hload : (loadRoomOn twoRooms codeOne).toOption.map Option.isSome = some true := by decide +kernel
  cases h : loadRoomOn twoRooms codeOne with
  | error e => rw [h] at hload; cases hload
  | ok found =>
    cases found with
    | none => rw [h] at hload; cases hload
    | some room => exact ⟨room, rfl⟩

/-- A call that is known to succeed. -/
theorem ok_of_isOk {α : Type} (result : Except StorageError α × Database) (h : result.1.isOk = true) :
    ∃ a, result = (.ok a, result.2) := by
  obtain ⟨r, d⟩ := result
  cases r with
  | ok a => exact ⟨a, rfl⟩
  | error e => cases h

/-- A guest of the second room takes the request id of a guest of the first, whose row then expires later. -/
theorem room_isolation_breaks : ∃ (mutation : RoomMutation) (db' : Database) (roomRow : RoomRow), Reachable twoRooms ∧
    applyRoomCommand codeTwo none (.requestJoin requestOne guestTwo 20 600) 20 twoRooms =
      (.ok mutation, db') ∧
    twoRooms.selectRoom "XYZ789" = some ("room_2", roomRow) ∧ ¬ Isolated twoRooms db' "room_2" codeTwo := by
  obtain ⟨mutation, hcall⟩ := ok_of_isOk (applyRoomCommand codeTwo none
    (.requestJoin requestOne guestTwo 20 600) 20 twoRooms) (by decide +kernel)
  have hselect : (twoRooms.selectRoom "XYZ789").map Prod.fst = some "room_2" := by decide +kernel
  obtain ⟨⟨_, roomRow⟩, hselect, rfl⟩ := Option.map_eq_some_iff.mp hselect
  refine ⟨mutation, _, roomRow, twoRooms_reachable, hcall, hselect, fun hisolated => ?_⟩
  have hrow : twoRooms.joinRequests["request_1"]? = some ⟨"room_1", "guest_1", "pending", 10, 500, 10⟩ := by
    decide +kernel
  have hkept := (hisolated.requests "request_1" _ (by decide)).mpr hrow
  exact absurd hkept (by decide +kernel)

/-- A guest of the second room with a request id of its own. -/
theorem room_isolation_fresh : ∃ (mutation : RoomMutation) (db' : Database),
    applyRoomCommand codeTwo none (.requestJoin requestTwo guestTwo 20 600) 20 twoRooms =
      (.ok mutation, db') ∧ Isolated twoRooms db' "room_2" codeTwo := by
  obtain ⟨mutation, hcall⟩ := ok_of_isOk (applyRoomCommand codeTwo none
    (.requestJoin requestTwo guestTwo 20 600) 20 twoRooms) (by decide +kernel)
  have hselect : (twoRooms.selectRoom "XYZ789").map Prod.fst = some "room_2" := by decide +kernel
  obtain ⟨⟨_, roomRow⟩, hselect, rfl⟩ := Option.map_eq_some_iff.mp hselect
  refine ⟨mutation, _, hcall, (room_isolation_iff hcall hselect).mpr ?_⟩
  rintro q s at' expiresAt row hcommand ⟨hrow, -⟩
  cases hcommand
  have hnone : twoRooms.joinRequests["request_2"]? = none := by decide +kernel
  exact absurd (hnone.symm.trans hrow) (by simp)

end P2PTransmission
