import P2PTransmission.Storage.History

/-!
# What the schema guarantees

Every statement that the store runs keeps its table within the constraints of the schema, so every reachable database
satisfies them (`Reachable.lawful`): each row passes its check and refers to rows that are there, no two rooms share a
code or an owner and create request, and no session has two pending requests in one room.
-/

set_option autoImplicit false

namespace P2PTransmission

open Storage

variable {db db' : Database} {room : Room} {now : Nat} {code : RoomCode} {command : RoomCommand}

/-! ## The unique indexes -/

/-- The rows share a code, or an owner and a create request. -/
def RoomRow.Conflicts (a b : RoomRow) : Prop :=
  a.code = b.code ∨ (a.ownerSessionId = b.ownerSessionId ∧ a.createRequestId = b.createRequestId)

/-- The rows are pending requests of one session in one room. -/
def JoinRequestRow.Conflicts (a b : JoinRequestRow) : Prop :=
  a.state = "pending" ∧ b.state = "pending" ∧ a.roomId = b.roomId ∧ a.sessionId = b.sessionId

theorem RoomRow.Conflicts.symm {a b : RoomRow} (h : a.Conflicts b) : b.Conflicts a := by
  rcases h with hcode | ⟨howner, hrequest⟩
  · exact .inl hcode.symm
  · exact .inr ⟨howner.symm, hrequest.symm⟩

theorem JoinRequestRow.Conflicts.symm {a b : JoinRequestRow} (h : a.Conflicts b) : b.Conflicts a := by
  obtain ⟨ha, hb, hroom, hsession⟩ := h
  exact ⟨hb, ha, hroom.symm, hsession.symm⟩

/-- A table without a unique index besides its key. -/
def noConflict {R : Type} (_ _ : R) : Prop := False

namespace Database

theorem sessionConstraints_forbids : Table.Forbids sessionConstraints noConflict := by
  intro table key row
  simp [sessionConstraints, noConflict]

theorem memberConstraints_forbids (db : Database) : Table.Forbids db.memberConstraints noConflict := by
  intro table key row
  simp [memberConstraints, noConflict]

theorem roomConstraints_forbids (db : Database) : Table.Forbids db.roomConstraints RoomRow.Conflicts := by
  intro table key row
  show (table.toList.any fun e : String × RoomRow => decide (e.1 ≠ key ∧ (e.2.code = row.code ∨
    (e.2.ownerSessionId = row.ownerSessionId ∧ e.2.createRequestId = row.createRequestId)))) = true ↔ _
  rw [BTreeMap.any_toList (p := fun k (r : RoomRow) => decide (k ≠ key ∧ (r.code = row.code ∨
    (r.ownerSessionId = row.ownerSessionId ∧ r.createRequestId = row.createRequestId))))]
  simp only [decide_eq_true_eq]
  constructor
  · rintro ⟨other, row', hrow, hother, hconflict⟩
    exact ⟨other, row', hother, hrow, RoomRow.Conflicts.symm hconflict⟩
  · rintro ⟨other, row', hother, hrow, hconflict⟩
    exact ⟨other, row', hrow, hother, hconflict.symm⟩

theorem joinRequestConstraints_forbids (db : Database) :
    Table.Forbids db.joinRequestConstraints JoinRequestRow.Conflicts := by
  intro table key row
  show decide (row.state = "pending" ∧ (table.toList.any fun e : String × JoinRequestRow => decide (e.1 ≠ key ∧
    e.2.state = "pending" ∧ e.2.roomId = row.roomId ∧ e.2.sessionId = row.sessionId)) = true) = true ↔ _
  rw [decide_eq_true_eq, BTreeMap.any_toList (p := fun k (r : JoinRequestRow) => decide (k ≠ key ∧ r.state = "pending" ∧
    r.roomId = row.roomId ∧ r.sessionId = row.sessionId))]
  simp only [decide_eq_true_eq]
  constructor
  · rintro ⟨hpending, other, row', hrow, hother, hpending', hroom, hsession⟩
    exact ⟨other, row', hother, hrow, hpending, hpending', hroom.symm, hsession.symm⟩
  · rintro ⟨other, row', hother, hrow, hpending, hpending', hroom, hsession⟩
    exact ⟨hpending, other, row', hrow, hother, hpending', hroom.symm, hsession.symm⟩

/-! ## Databases within the schema -/

structure Lawful (db : Database) : Prop where
  sessions : Table.Valid sessionConstraints noConflict db.sessions
  rooms : Table.Valid db.roomConstraints RoomRow.Conflicts db.rooms
  roomMembers : Table.Valid db.memberConstraints noConflict db.roomMembers
  joinRequests : Table.Valid db.joinRequestConstraints JoinRequestRow.Conflicts db.joinRequests

theorem Lawful.empty : Lawful Database.empty :=
  ⟨Table.Valid.empty _ _, Table.Valid.empty _ _, Table.Valid.empty _ _, Table.Valid.empty _ _⟩

theorem contains_insert {R : Type} {table : BTreeMap String R} {key id : String} {row : R}
    (h : table.contains id = true) : (table.insert key row).contains id = true := by
  rw [Std.ExtTreeMap.contains_insert, h, Bool.or_true]

/-- Foreign keys survive when the tables that they refer to grow. -/
theorem Lawful.grow (h : Lawful db) (db' : Database)
    (hsessions : ∀ id, db.sessions.contains id = true → db'.sessions.contains id = true)
    (hrooms : ∀ id, db.rooms.contains id = true → db'.rooms.contains id = true) :
    Table.Valid db'.roomConstraints RoomRow.Conflicts db.rooms ∧
      Table.Valid db'.memberConstraints noConflict db.roomMembers ∧
      Table.Valid db'.joinRequestConstraints JoinRequestRow.Conflicts db.joinRequests := by
  refine ⟨h.rooms.mono (fun _ hc => hc) fun _ row hr => hsessions _ hr,
    h.roomMembers.mono (fun _ hc => hc) fun key row hr => ?_,
    h.joinRequests.mono (fun _ hc => hc) fun key row hr => ?_⟩
  · have hr : (db.rooms.contains key.roomId && db.sessions.contains key.sessionId) = true := hr
    rw [Bool.and_eq_true] at hr
    show (db'.rooms.contains key.roomId && db'.sessions.contains key.sessionId) = true
    rw [hrooms _ hr.1, hsessions _ hr.2, Bool.and_self]
  · have hr : (db.rooms.contains row.roomId && db.sessions.contains row.sessionId) = true := hr
    rw [Bool.and_eq_true] at hr
    show (db'.rooms.contains row.roomId && db'.sessions.contains row.sessionId) = true
    rw [hrooms _ hr.1, hsessions _ hr.2, Bool.and_self]

/-- A session of a membership or a request is stored. -/
theorem Lawful.memberSession (h : Lawful db) {key : MemberKey} {row : MemberRow} (hrow : db.roomMembers[key]? = some row) :
    db.sessions.contains key.sessionId = true := by
  have hr : (db.rooms.contains key.roomId && db.sessions.contains key.sessionId) = true :=
    h.roomMembers.references key row hrow
  rw [Bool.and_eq_true] at hr
  exact hr.2

theorem Lawful.requestSession (h : Lawful db) {id : String} {row : JoinRequestRow}
    (hrow : db.joinRequests[id]? = some row) : db.sessions.contains row.sessionId = true := by
  have hr : (db.rooms.contains row.roomId && db.sessions.contains row.sessionId) = true :=
    h.joinRequests.references id row hrow
  rw [Bool.and_eq_true] at hr
  exact hr.2

end Database

open Database

/-! ## Every statement keeps the schema -/

theorem persistMembership_lawful (h : Lawful db) {membership : RoomMembershipSnapshot}
    (hok : persistMembership room now db membership = .ok db') : Lawful db' := by
  unfold persistMembership at hok
  obtain ⟨createdAtMs, -, hok⟩ := bind_ok.mp hok
  obtain ⟨updatedAtMs, -, hok⟩ := bind_ok.mp hok
  obtain ⟨roomMembers, hwrite, hok⟩ := bind_ok.mp hok
  cases hok
  exact ⟨h.sessions, h.rooms, h.roomMembers.upsert (fun _ _ hc => hc.elim) (memberConstraints_forbids db)
    (mapWrite_ok hwrite) fun _ => rfl, h.joinRequests⟩

theorem persistJoinRequest_lawful (h : Lawful db) {request : RoomJoinRequestSnapshot}
    (hok : persistJoinRequest room now db request = .ok db') : Lawful db' := by
  unfold persistJoinRequest at hok
  obtain ⟨createdAtMs, -, hok⟩ := bind_ok.mp hok
  obtain ⟨expiresAtMs, -, hok⟩ := bind_ok.mp hok
  obtain ⟨updatedAtMs, -, hok⟩ := bind_ok.mp hok
  dsimp only at hok
  obtain ⟨joinRequests, hwrite, hok⟩ := bind_ok.mp hok
  cases hok
  exact ⟨h.sessions, h.rooms, h.roomMembers, h.joinRequests.upsert (fun _ _ hc => hc.symm)
    (joinRequestConstraints_forbids db) (mapWrite_ok hwrite) fun _ => rfl⟩

theorem persistRoomChildren_lawful (h : Lawful db) (hok : persistRoomChildren room now db = .ok db') : Lawful db' := by
  obtain ⟨db₁, hmembers, hrequests⟩ := bind_ok.mp hok
  have h₁ : Lawful db₁ := foldlM_keeps (fun _ _ _ _ hs hstep => persistMembership_lawful hs hstep) hmembers h
  exact foldlM_keeps (fun _ _ _ _ hs hstep => persistJoinRequest_lawful hs hstep) hrequests h₁

/-- `UPDATE rooms` sets no column of an index. -/
theorem updateRoom_lawful (h : Lawful db) {before rows : Nat} (hok : updateRoom room before now db = .ok (db', rows)) :
    Lawful db' := by
  unfold updateRoom at hok
  obtain ⟨revision, -, hok⟩ := bind_ok.mp hok
  obtain ⟨expiresAtMs, -, hok⟩ := bind_ok.mp hok
  obtain ⟨updatedAtMs, -, hok⟩ := bind_ok.mp hok
  obtain ⟨expected, -, hok⟩ := bind_ok.mp hok
  split at hok
  · rename_i rooms rowsAffected hupdate
    cases hok
    have hgrow : ∀ id, db.rooms.contains id = true → rooms.contains id = true := by
      rcases Table.update_ok hupdate with ⟨_, _, _, _, _, rfl⟩ | ⟨_, rfl, _⟩
      · exact fun _ => contains_insert
      · exact fun _ hid => hid
    have hvalid : Table.Valid db.roomConstraints RoomRow.Conflicts rooms :=
      h.rooms.update (fun _ _ hc => hc.symm) hupdate (fun _ _ hc => hc) fun _ => rfl
    obtain ⟨-, hmembers, hrequests⟩ := h.grow { db with rooms } (fun _ hid => hid) hgrow
    exact ⟨h.sessions, hvalid, hmembers, hrequests⟩
  · cases hok

/-! ## Every call keeps the schema -/

theorem insertSession_lawful (h : Lawful db) (session : Session) (now : Nat) : Lawful (insertSession session now db).2 := by
  cases hr : insertSession session now db with
  | mk result db' =>
    cases result with
    | error e => exact (transaction_error hr).symm ▸ h
    | ok u =>
      have hbody := transaction_ok hr
      obtain ⟨_, -, hbody⟩ := bind_ok.mp hbody
      obtain ⟨_, -, hbody⟩ := bind_ok.mp hbody
      obtain ⟨_, -, hbody⟩ := bind_ok.mp hbody
      obtain ⟨sessions, hinsert, hbody⟩ := bind_ok.mp hbody
      cases hbody
      have hinsert := mapWrite_ok hinsert
      have hvalid := h.sessions.insert (fun _ _ hc => hc.elim) sessionConstraints_forbids hinsert
      obtain ⟨-, -, -, -, rfl⟩ := Table.insert_ok.mp hinsert
      obtain ⟨hrooms, hmembers, hrequests⟩ :=
        h.grow { db with sessions := db.sessions.insert _ _ } (fun _ => contains_insert) (fun _ hid => hid)
      exact ⟨hvalid, hrooms, hmembers, hrequests⟩

theorem insertRoom_lawful (h : Lawful db) (room : Room) (createRequestId : RequestId) (now : Nat) :
    Lawful (insertRoom room createRequestId now db).2 := by
  cases hr : insertRoom room createRequestId now db with
  | mk result db' =>
    cases result with
    | error e => exact (transaction_error hr).symm ▸ h
    | ok u =>
      have hbody := transaction_ok hr
      obtain ⟨_, -, hbody⟩ := bind_ok.mp hbody
      obtain ⟨_, -, hbody⟩ := bind_ok.mp hbody
      obtain ⟨_, -, hbody⟩ := bind_ok.mp hbody
      obtain ⟨_, -, hbody⟩ := bind_ok.mp hbody
      obtain ⟨rooms, hinsert, hbody⟩ := bind_ok.mp hbody
      obtain ⟨db₂, hpersist, hbody⟩ := bind_ok.mp hbody
      cases hbody
      have hinsert := mapWrite_ok hinsert
      have hvalid := h.rooms.insert (fun _ _ hc => hc.symm) (roomConstraints_forbids db) hinsert
      obtain ⟨-, -, -, -, rfl⟩ := Table.insert_ok.mp hinsert
      obtain ⟨-, hmembers, hrequests⟩ :=
        h.grow { db with rooms := db.rooms.insert _ _ } (fun _ hid => hid) (fun _ => contains_insert)
      refine persistRoomChildren_lawful ?_ hpersist
      exact ⟨h.sessions, hvalid, hmembers, hrequests⟩

theorem applyRoomCommand_lawful (h : Lawful db) (code : RoomCode) (expected : Option Nat) (command : RoomCommand)
    (now : Nat) : Lawful (applyRoomCommand code expected command now db).2 := by
  cases hr : applyRoomCommand code expected command now db with
  | mk result db' =>
    cases result with
    | error e => exact (transaction_error hr).symm ▸ h
    | ok mutation =>
      have hbody := transaction_ok hr
      obtain ⟨found, -, hbody⟩ := bind_ok.mp hbody
      cases found with
      | none => cases hbody
      | some loaded =>
        dsimp only at hbody
        split at hbody
        · cases hbody
        split at hbody
        · cases hbody
        split at hbody
        · obtain ⟨⟨db₁, rows⟩, hupdate, hbody⟩ := bind_ok.mp hbody
          dsimp only at hbody
          split at hbody
          · obtain ⟨_, -, hbody⟩ := bind_ok.mp hbody
            cases hbody
          obtain ⟨db₂, hpersist, hbody⟩ := bind_ok.mp hbody
          cases hbody
          exact persistRoomChildren_lawful (updateRoom_lawful h hupdate) hpersist
        · cases hbody
          exact h

theorem Database.Lawful.call (h : Lawful db) (call : Call) : Lawful (call.run db) := by
  cases call with
  | insertSession session now => exact insertSession_lawful h session now
  | insertRoom id code owner createdAt expiresAt createRequestId now =>
    simp only [Call.run]
    split
    · exact insertRoom_lawful h _ _ _
    · exact h
  | applyRoomCommand code expected command now => exact applyRoomCommand_lawful h code expected command now

/-- **Every reachable database satisfies the schema.** -/
theorem Storage.Reachable.lawful (h : Reachable db) : Lawful db := by
  obtain ⟨calls, hrun⟩ := h
  exact hrun.invariant (fun _ call _ hs he => by subst he; exact hs.call call) Lawful.empty

end P2PTransmission
