import P2PTransmission.Storage.Loading

/-!
# Written rooms

What a successful call leaves in the tables. `Persisted` describes the rows after `persistRoomChildren`: every
membership and every request of the room is written under its key, and no other key is touched. `applyRoomCommand_ok`
describes a whole call.
-/

set_option autoImplicit false

namespace P2PTransmission

variable {db db' : Database} {room : Room} {now : Nat} {code : RoomCode} {command : RoomCommand}

/-! ## One statement -/

/-- The membership row that is inserted, if none is there. -/
def MemberRow.inserted (membership : Membership) (now : Nat) : MemberRow :=
  { role := membershipRoleText membership.role
    state := (membershipStateParts membership.state).1
    peerId := (membershipStateParts membership.state).2
    createdAtMs := now
    updatedAtMs := now }

/-- The membership row that is there, rewritten. -/
def MemberRow.rewritten (membership : Membership) (now : Nat) (old : MemberRow) : MemberRow :=
  { MemberRow.inserted membership now with createdAtMs := old.createdAtMs }

/-- The request row that is inserted, if none is there. -/
def JoinRequestRow.inserted (roomId : RoomId) (request : JoinRequest) (now : Nat) : JoinRequestRow :=
  { roomId := roomId.value
    sessionId := request.sessionId.value
    state := joinRequestStateText request.state
    createdAtMs := (min now (request.expiresAt - 1) : Nat)
    expiresAtMs := request.expiresAt
    updatedAtMs := now }

/-- The request row that is there, rewritten: it keeps its room and its session. -/
def JoinRequestRow.rewritten (request : JoinRequest) (now : Nat) (old : JoinRequestRow) : JoinRequestRow :=
  { old with
    state := joinRequestStateText request.state
    expiresAtMs := request.expiresAt
    updatedAtMs := now }

/-- The membership row after a write over `old`. -/
def MemberRow.write (membership : Membership) (now : Nat) : Option MemberRow → MemberRow :=
  Table.written (MemberRow.rewritten membership now) (MemberRow.inserted membership now)

/-- The request row after a write over `old`. -/
def JoinRequestRow.write (roomId : RoomId) (request : JoinRequest) (now : Nat) :
    Option JoinRequestRow → JoinRequestRow :=
  Table.written (JoinRequestRow.rewritten request now) (JoinRequestRow.inserted roomId request now)

theorem MemberRow.write_holds (membership : Membership) (now : Nat) (old : Option MemberRow) :
    (MemberRow.write membership now old).Holds membership := by
  cases old <;> exact ⟨rfl, rfl⟩

theorem mapWrite_ok {α : Type} {x : Except ConstraintError α} {a : α} (h : mapWrite x = .ok a) : x = .ok a := by
  cases x with
  | ok b => exact congrArg Except.ok (Except.ok.inj h)
  | error e => cases h

theorem persistMembership_ok {membership : RoomMembershipSnapshot}
    (h : persistMembership room now db membership = .ok db') :
    ∃ roomMembers, db' = { db with roomMembers } ∧ ∀ key : MemberKey, roomMembers[key]? =
      if (⟨room.id.value, membership.sessionId.value⟩ : MemberKey) = key then
        some (MemberRow.write { role := membership.role, state := membership.state } now db.roomMembers[key]?)
      else db.roomMembers[key]? := by
  unfold persistMembership at h
  obtain ⟨createdAtMs, hcreated, h⟩ := bind_ok.mp h
  obtain ⟨updatedAtMs, hupdated, h⟩ := bind_ok.mp h
  obtain ⟨roomMembers, hwrite, h⟩ := bind_ok.mp h
  have hdb := Except.ok.inj h
  have hcreated := sqlInteger_ok hcreated
  have hupdated := sqlInteger_ok hupdated
  subst hcreated hupdated
  refine ⟨roomMembers, hdb.symm, fun key => ?_⟩
  exact Table.upsert_getElem? (mapWrite_ok hwrite) key

theorem persistJoinRequest_ok {request : RoomJoinRequestSnapshot}
    (h : persistJoinRequest room now db request = .ok db') :
    ∃ joinRequests, db' = { db with joinRequests } ∧ ∀ id : String, joinRequests[id]? =
      if request.requestId.value = id then
        some (JoinRequestRow.write room.id
          { sessionId := request.sessionId, expiresAt := request.expiresAt, state := request.state } now
          db.joinRequests[id]?)
      else db.joinRequests[id]? := by
  unfold persistJoinRequest at h
  obtain ⟨createdAtMs, hcreated, h⟩ := bind_ok.mp h
  obtain ⟨expiresAtMs, hexpires, h⟩ := bind_ok.mp h
  obtain ⟨updatedAtMs, hupdated, h⟩ := bind_ok.mp h
  dsimp only at h
  obtain ⟨joinRequests, hwrite, h⟩ := bind_ok.mp h
  have hdb := Except.ok.inj h
  have hcreated := sqlInteger_ok hcreated
  have hexpires := sqlInteger_ok hexpires
  have hupdated := sqlInteger_ok hupdated
  subst hcreated hexpires hupdated
  refine ⟨joinRequests, hdb.symm, fun id => ?_⟩
  exact Table.upsert_getElem? (mapWrite_ok hwrite) id

/-! ## All statements -/

theorem mem_membershipSnapshots {snapshot : RoomMembershipSnapshot} :
    snapshot ∈ room.membershipSnapshots ↔
      room.memberships[snapshot.sessionId]? = some { role := snapshot.role, state := snapshot.state } := by
  unfold Room.membershipSnapshots
  rw [List.mem_map]
  constructor
  · rintro ⟨⟨s, m⟩, hm, rfl⟩
    exact BTreeMap.mem_toList.mp hm
  · intro h
    exact ⟨(snapshot.sessionId, ⟨snapshot.role, snapshot.state⟩), BTreeMap.mem_toList.mpr h, rfl⟩

theorem mem_joinRequestSnapshots {snapshot : RoomJoinRequestSnapshot} :
    snapshot ∈ room.joinRequestSnapshots ↔ room.joinRequests[snapshot.requestId]? =
      some { sessionId := snapshot.sessionId, expiresAt := snapshot.expiresAt, state := snapshot.state } := by
  unfold Room.joinRequestSnapshots
  rw [List.mem_map]
  constructor
  · rintro ⟨⟨q, r⟩, hr, rfl⟩
    exact BTreeMap.mem_toList.mp hr
  · intro h
    exact ⟨(snapshot.requestId, ⟨snapshot.sessionId, snapshot.expiresAt, snapshot.state⟩),
      BTreeMap.mem_toList.mpr h, rfl⟩

theorem membershipSnapshots_nodup (room : Room) :
    (room.membershipSnapshots.map fun a => (⟨room.id.value, a.sessionId.value⟩ : MemberKey)).Nodup := by
  have hkeys : room.membershipSnapshots.map (fun a => (⟨room.id.value, a.sessionId.value⟩ : MemberKey)) =
      room.memberships.keys.map fun s => (⟨room.id.value, s.value⟩ : MemberKey) := by
    unfold Room.membershipSnapshots
    rw [List.map_map, ← Std.ExtTreeMap.map_fst_toList_eq_keys, List.map_map]
    rfl
  rw [hkeys]
  refine Std.ExtTreeMap.nodup_keys.map fun a b hab => ?_
  exact Identifier.ext (MemberKey.mk.inj hab).2

theorem joinRequestSnapshots_nodup (room : Room) :
    (room.joinRequestSnapshots.map fun a => a.requestId.value).Nodup := by
  have hkeys : room.joinRequestSnapshots.map (fun a => a.requestId.value) =
      room.joinRequests.keys.map Identifier.value := by
    unfold Room.joinRequestSnapshots
    rw [List.map_map, ← Std.ExtTreeMap.map_fst_toList_eq_keys, List.map_map]
    rfl
  rw [hkeys]
  exact Std.ExtTreeMap.nodup_keys.map fun a b hab => Identifier.ext hab

/-- The tables after the memberships and the requests of a room were written. -/
structure Persisted (db : Database) (room : Room) (now : Nat) (db' : Database) : Prop where
  sessions : db'.sessions = db.sessions
  rooms : db'.rooms = db.rooms
  member : ∀ (s : SessionId) (m : Membership), room.memberships[s]? = some m →
    db'.roomMembers[(⟨room.id.value, s.value⟩ : MemberKey)]? =
      some (MemberRow.write m now db.roomMembers[(⟨room.id.value, s.value⟩ : MemberKey)]?)
  memberOther : ∀ key : MemberKey, (∀ (s : SessionId) (m : Membership), room.memberships[s]? = some m →
    key ≠ ⟨room.id.value, s.value⟩) → db'.roomMembers[key]? = db.roomMembers[key]?
  request : ∀ (q : RequestId) (r : JoinRequest), room.joinRequests[q]? = some r →
    db'.joinRequests[q.value]? = some (JoinRequestRow.write room.id r now db.joinRequests[q.value]?)
  requestOther : ∀ id : String, (∀ (q : RequestId) (r : JoinRequest), room.joinRequests[q]? = some r → id ≠ q.value) →
    db'.joinRequests[id]? = db.joinRequests[id]?

/-- The two loops write the room's memberships, then its requests. -/
theorem persistRoomChildren_ok (h : persistRoomChildren room now db = .ok db') : Persisted db room now db' := by
  obtain ⟨db₁, hmembers, hrequests⟩ := bind_ok.mp h
  have hframe₁ : db₁.sessions = db.sessions ∧ db₁.rooms = db.rooms ∧ db₁.joinRequests = db.joinRequests := by
    refine foldlM_keeps (P := fun d : Database =>
      d.sessions = db.sessions ∧ d.rooms = db.rooms ∧ d.joinRequests = db.joinRequests) ?_ hmembers ⟨rfl, rfl, rfl⟩
    intro s a s' _ hs ha
    obtain ⟨_, rfl, -⟩ := persistMembership_ok ha
    exact hs
  have hframe₂ : db'.sessions = db₁.sessions ∧ db'.rooms = db₁.rooms ∧ db'.roomMembers = db₁.roomMembers := by
    refine foldlM_keeps (P := fun d : Database =>
      d.sessions = db₁.sessions ∧ d.rooms = db₁.rooms ∧ d.roomMembers = db₁.roomMembers) ?_ hrequests ⟨rfl, rfl, rfl⟩
    intro s a s' _ hs ha
    obtain ⟨_, rfl, -⟩ := persistJoinRequest_ok ha
    exact hs
  have hstepMember : ∀ (d : Database) (a : RoomMembershipSnapshot) (d' : Database),
      persistMembership room now d a = .ok d' → ∀ key : MemberKey, d'.roomMembers[key]? =
        if (⟨room.id.value, a.sessionId.value⟩ : MemberKey) = key then
          some (MemberRow.write { role := a.role, state := a.state } now d.roomMembers[key]?)
        else d.roomMembers[key]? := by
    intro d a d' ha
    obtain ⟨_, rfl, hkey⟩ := persistMembership_ok ha
    exact hkey
  have hstepRequest : ∀ (d : Database) (a : RoomJoinRequestSnapshot) (d' : Database),
      persistJoinRequest room now d a = .ok d' → ∀ id : String, d'.joinRequests[id]? =
        if a.requestId.value = id then
          some (JoinRequestRow.write room.id { sessionId := a.sessionId, expiresAt := a.expiresAt, state := a.state }
            now d.joinRequests[id]?)
        else d.joinRequests[id]? := by
    intro d a d' ha
    obtain ⟨_, rfl, hid⟩ := persistJoinRequest_ok ha
    exact hid
  obtain ⟨hmember, hmemberOther⟩ := foldlM_writes (fun (d : Database) key => d.roomMembers[key]?)
    (fun a => (⟨room.id.value, a.sessionId.value⟩ : MemberKey))
    (fun a => MemberRow.write { role := a.role, state := a.state } now) hstepMember
    (membershipSnapshots_nodup room) hmembers
  obtain ⟨hrequest, hrequestOther⟩ := foldlM_writes (fun (d : Database) id => d.joinRequests[id]?)
    (fun a => a.requestId.value)
    (fun a => JoinRequestRow.write room.id { sessionId := a.sessionId, expiresAt := a.expiresAt, state := a.state } now)
    hstepRequest (joinRequestSnapshots_nodup room) hrequests
  refine ⟨hframe₂.1.trans hframe₁.1, hframe₂.2.1.trans hframe₁.2.1, fun s m hm => ?_, fun key hkey => ?_,
    fun q r hr => ?_, fun id hid => ?_⟩
  · rw [hframe₂.2.2]
    exact hmember { sessionId := s, role := m.role, state := m.state } (mem_membershipSnapshots.mpr hm)
  · rw [hframe₂.2.2]
    refine hmemberOther key fun hmem => ?_
    obtain ⟨a, ha, rfl⟩ := List.mem_map.mp hmem
    exact hkey a.sessionId { role := a.role, state := a.state } (mem_membershipSnapshots.mp ha) rfl
  · rw [← hframe₁.2.2]
    exact hrequest (Room.requestSnapshot q r) (mem_joinRequestSnapshots.mpr hr)
  · rw [← hframe₁.2.2]
    refine hrequestOther id fun hmem => ?_
    obtain ⟨a, ha, rfl⟩ := List.mem_map.mp hmem
    exact hid a.requestId { sessionId := a.sessionId, expiresAt := a.expiresAt, state := a.state }
      (mem_joinRequestSnapshots.mp ha) rfl

/-! ## Whole calls -/

/-- The row of a room after `UPDATE rooms`. -/
def RoomRow.updated (room : Room) (now : Nat) (old : RoomRow) : RoomRow :=
  { old with
    state := roomStateText room.state
    revision := room.revision
    expiresAtMs := room.expiresAt
    updatedAtMs := now }

/-- The tables after a command turned the stored room of revision `before` into `room`. -/
def Committed (db : Database) (before : Nat) (room : Room) (now : Nat) (db' : Database) : Prop :=
  ∃ old : RoomRow, db.rooms[room.id.value]? = some old ∧ old.revision = before ∧
    Persisted { db with rooms := db.rooms.insert room.id.value (RoomRow.updated room now old) } room now db'

theorem updateRoom_ok {before rows : Nat} (h : updateRoom room before now db = .ok (db', rows)) (hrows : rows = 1) :
    ∃ old : RoomRow, db.rooms[room.id.value]? = some old ∧ old.revision = before ∧
      db' = { db with rooms := db.rooms.insert room.id.value (RoomRow.updated room now old) } := by
  unfold updateRoom at h
  obtain ⟨revision, hrevision, h⟩ := bind_ok.mp h
  obtain ⟨expiresAtMs, hexpires, h⟩ := bind_ok.mp h
  obtain ⟨updatedAtMs, hupdated, h⟩ := bind_ok.mp h
  obtain ⟨expected, hexpected, h⟩ := bind_ok.mp h
  split at h
  · rename_i rooms rowsAffected hupdate
    cases h
    rcases Table.update_ok hupdate with ⟨old, hold, hcondition, -, -, rfl⟩ | ⟨hzero, -, -⟩
    · refine ⟨old, hold, ?_, ?_⟩
      · rw [decide_eq_true_eq] at hcondition
        rw [hcondition, sqlInteger_ok hexpected]
      · rw [sqlInteger_ok hrevision, sqlInteger_ok hexpires, sqlInteger_ok hupdated]
        rfl
    · omega
  · cases h

namespace Storage

theorem transaction_ok {α : Type} {body : Database → Except StorageError (α × Database)} {a : α}
    (h : transaction body db = (.ok a, db')) : body db = .ok (a, db') := by
  unfold transaction at h
  split at h
  · rename_i hbody
    cases h
    exact hbody
  · cases h

/-- A call that fails leaves the tables as they were. -/
theorem transaction_error {α : Type} {body : Database → Except StorageError (α × Database)} {error : StorageError}
    (h : transaction body db = (.error error, db')) : db' = db := by
  unfold transaction at h
  split at h
  · cases h
  · cases h; rfl

/-- **A successful call**: the command it ran on the stored room, and what it wrote. -/
theorem applyRoomCommand_ok {expected : Option Nat} {mutation : RoomMutation}
    (h : applyRoomCommand code expected command now db = (.ok mutation, db')) :
    ∃ loaded : Room, loadRoomOn db code = .ok (some loaded) ∧ (∀ r, expected = some r → r = loaded.revision) ∧
      loaded.handle command = (.ok mutation.outcome, mutation.room) ∧
      ((mutation.outcome = .UNCHANGED ∧ db' = db) ∨
        (mutation.outcome = .CHANGED ∧ Committed db loaded.revision mutation.room now db')) := by
  have h := transaction_ok h
  obtain ⟨found, hload, h⟩ := bind_ok.mp h
  cases found with
  | none => cases h
  | some loaded =>
    dsimp only at h
    split at h
    · cases h
    rename_i hexpected
    have hexpected : ∀ r, expected = some r → r = loaded.revision := by
      rintro r rfl
      simpa using hexpected
    split at h
    · cases h
    rename_i outcome room hhandle
    split at h
    · rename_i hchanged
      obtain ⟨⟨db₁, rows⟩, hupdate, h⟩ := bind_ok.mp h
      dsimp only at h
      split at h
      · obtain ⟨_, -, h⟩ := bind_ok.mp h
        cases h
      rename_i hrows
      obtain ⟨db₂, hpersist, h⟩ := bind_ok.mp h
      cases h
      obtain ⟨old, hold, hrevision, rfl⟩ := updateRoom_ok hupdate (by omega)
      have houtcome : outcome = .CHANGED := by
        cases outcome
        exact congrArg RoomCommandOutcome.mk hchanged
      exact ⟨loaded, hload, hexpected, hhandle, .inr ⟨houtcome, old, hold, hrevision, persistRoomChildren_ok hpersist⟩⟩
    · rename_i hchanged
      cases h
      have houtcome : outcome = .UNCHANGED := by
        cases outcome
        exact congrArg RoomCommandOutcome.mk (by simpa using hchanged)
      exact ⟨loaded, hload, hexpected, hhandle, .inl ⟨houtcome, rfl⟩⟩

end Storage

end P2PTransmission
