import P2PTransmission.Storage.Lawful

/-!
# Writes that succeed

The other direction of `Writing`: from what the columns and the constraints need, each statement succeeds with the row
that it is meant to leave. During the two loops of `persistRoomChildren` every row is as it was or as it will be
(`Underway`).
-/

set_option autoImplicit false

namespace P2PTransmission

open Storage Database

variable {db : Database} {room loaded : Room} {now : Nat} {code : RoomCode} {command : RoomCommand}

/-! ## Columns that pass their checks -/

theorem sqlInteger_fits {n : Nat} (h : n ≤ I64_MAX) : sqlInteger n = .ok (n : Int) := if_pos h

theorem checkTimes_iff {createdAtMs updatedAtMs : Int} :
    checkTimes createdAtMs updatedAtMs = true ↔ 0 ≤ createdAtMs ∧ createdAtMs ≤ updatedAtMs := by
  simp [checkTimes]

theorem memberCheck_iff (db : Database) (m : Membership) (now : Nat) (old : Option MemberRow) :
    db.memberConstraints.check (MemberRow.write m now old) = true ↔
      ∀ row, old = some row → 0 ≤ row.createdAtMs ∧ row.createdAtMs ≤ now := by
  have hrole : ["owner", "receiver"].contains (membershipRoleText m.role) = true := by cases m.role <;> decide
  have hstate : ["offline", "online", "left"].contains (membershipStateParts m.state).1 = true := by
    cases m.state <;> rfl
  have hpeer : (((membershipStateParts m.state).1 == "online") == (membershipStateParts m.state).2.isSome) = true := by
    cases m.state <;> rfl
  cases old with
  | none =>
    show (_ && _ && checkTimes (now : Int) (now : Int) && _) = true ↔ _
    simp only [MemberRow.write, Table.written, MemberRow.inserted, hrole, hstate, hpeer, Bool.and_true, Bool.true_and,
      checkTimes_iff]
    simp
  | some row =>
    show (_ && _ && checkTimes row.createdAtMs (now : Int) && _) = true ↔ _
    simp only [MemberRow.write, Table.written, MemberRow.rewritten, MemberRow.inserted, hrole, hstate, hpeer,
      Bool.and_true, Bool.true_and, checkTimes_iff]
    simp

theorem requestStateText_mem (state : JoinRequestState) :
    ["pending", "approved", "rejected", "cancelled", "expired"].contains (joinRequestStateText state) = true := by
  cases state <;> decide

theorem insertedCheck {roomId : RoomId} {r : JoinRequest} (db : Database) (hexpiry : 0 < r.expiresAt) :
    db.joinRequestConstraints.check (JoinRequestRow.inserted roomId r now) = true := by
  show (_ && checkTimes ((min now (r.expiresAt - 1) : Nat) : Int) (now : Int) &&
    decide (((min now (r.expiresAt - 1) : Nat) : Int) < (r.expiresAt : Int))) = true
  rw [show (JoinRequestRow.inserted roomId r now).state = joinRequestStateText r.state from rfl,
    requestStateText_mem, Bool.true_and, Bool.and_eq_true, checkTimes_iff, decide_eq_true_eq]
  omega

theorem rewrittenCheck_iff {r : JoinRequest} {old : JoinRequestRow} (db : Database) :
    db.joinRequestConstraints.check (JoinRequestRow.rewritten r now old) = true ↔
      (0 ≤ old.createdAtMs ∧ old.createdAtMs ≤ now) ∧ old.createdAtMs < r.expiresAt := by
  show (["pending", "approved", "rejected", "cancelled", "expired"].contains (joinRequestStateText r.state) &&
    checkTimes old.createdAtMs (now : Int) && decide (old.createdAtMs < (r.expiresAt : Int))) = true ↔ _
  rw [requestStateText_mem, Bool.true_and, Bool.and_eq_true, checkTimes_iff, decide_eq_true_eq]

theorem roomCheck_iff {old : RoomRow} (db : Database) :
    db.roomConstraints.check (RoomRow.updated room now old) = true ↔
      1 ≤ room.revision ∧ (0 ≤ old.createdAtMs ∧ old.createdAtMs ≤ now) ∧ old.createdAtMs < room.expiresAt := by
  have hstate : ["active", "expired"].contains (roomStateText room.state) = true := by cases room.state <;> decide
  show (["active", "expired"].contains (roomStateText room.state) && decide ((1 : Int) ≤ room.revision) &&
    checkTimes old.createdAtMs (now : Int) && decide (old.createdAtMs < (room.expiresAt : Int))) = true ↔ _
  rw [hstate, Bool.true_and, Bool.and_eq_true, Bool.and_eq_true, checkTimes_iff, decide_eq_true_eq, decide_eq_true_eq]
  omega

/-! ## Writes that succeed -/

theorem persistMembership_of {membership : RoomMembershipSnapshot} {m : Membership}
    (hm : (⟨membership.role, membership.state⟩ : Membership) = m) (hnow : now ≤ I64_MAX)
    (hold : ∀ row, db.roomMembers[(⟨room.id.value, membership.sessionId.value⟩ : MemberKey)]? = some row →
      0 ≤ row.createdAtMs ∧ row.createdAtMs ≤ now)
    (hnew : db.roomMembers[(⟨room.id.value, membership.sessionId.value⟩ : MemberKey)]? = none →
      db.rooms.contains room.id.value = true ∧ db.sessions.contains membership.sessionId.value = true) :
    persistMembership room now db membership = .ok { db with
      roomMembers := db.roomMembers.insert ⟨room.id.value, membership.sessionId.value⟩
        (MemberRow.write m now db.roomMembers[(⟨room.id.value, membership.sessionId.value⟩ : MemberKey)]?) } := by
  subst hm
  have hwrite : Table.upsert db.memberConstraints (MemberRow.rewritten ⟨membership.role, membership.state⟩ now)
      ⟨room.id.value, membership.sessionId.value⟩ (MemberRow.inserted ⟨membership.role, membership.state⟩ now)
      db.roomMembers = .ok (db.roomMembers.insert ⟨room.id.value, membership.sessionId.value⟩
        (MemberRow.write ⟨membership.role, membership.state⟩ now
          db.roomMembers[(⟨room.id.value, membership.sessionId.value⟩ : MemberKey)]?)) := by
    refine Table.upsert_ok.mpr ⟨(memberCheck_iff db _ now none).mpr nofun, (memberCheck_iff db _ now _).mpr hold, rfl,
      fun hnone => ?_, rfl⟩
    obtain ⟨hroom, hsession⟩ := hnew hnone
    show (db.rooms.contains room.id.value && db.sessions.contains membership.sessionId.value) = true
    rw [hroom, hsession, Bool.and_self]
  unfold persistMembership
  simp only [sqlInteger_fits hnow, bind, Except.bind]
  exact congrArg (fun x => Except.bind (mapWrite x) fun roomMembers => Except.ok { db with roomMembers }) hwrite

theorem persistJoinRequest_of {request : RoomJoinRequestSnapshot} {r : JoinRequest}
    (hr : (⟨request.sessionId, request.expiresAt, request.state⟩ : JoinRequest) = r) (hnow : now ≤ I64_MAX)
    (hexpiry : request.expiresAt ≤ I64_MAX) (hpositive : 0 < request.expiresAt)
    (hold : ∀ row, db.joinRequests[request.requestId.value]? = some row →
      (0 ≤ row.createdAtMs ∧ row.createdAtMs ≤ now) ∧ row.createdAtMs < request.expiresAt)
    (hclash : db.joinRequestConstraints.clash db.joinRequests request.requestId.value
      (JoinRequestRow.write room.id r now db.joinRequests[request.requestId.value]?) = false)
    (hnew : db.joinRequests[request.requestId.value]? = none →
      db.rooms.contains room.id.value = true ∧ db.sessions.contains request.sessionId.value = true) :
    persistJoinRequest room now db request = .ok { db with
      joinRequests := db.joinRequests.insert request.requestId.value
        (JoinRequestRow.write room.id r now db.joinRequests[request.requestId.value]?) } := by
  subst hr
  have hwrite : Table.upsert db.joinRequestConstraints
      (JoinRequestRow.rewritten ⟨request.sessionId, request.expiresAt, request.state⟩ now) request.requestId.value
      (JoinRequestRow.inserted room.id ⟨request.sessionId, request.expiresAt, request.state⟩ now) db.joinRequests =
      .ok (db.joinRequests.insert request.requestId.value
        (JoinRequestRow.write room.id ⟨request.sessionId, request.expiresAt, request.state⟩ now
          db.joinRequests[request.requestId.value]?)) := by
    refine Table.upsert_ok.mpr ⟨insertedCheck db hpositive, ?_, hclash, fun hnone => ?_, rfl⟩
    · cases hrow : db.joinRequests[request.requestId.value]? with
      | none => exact insertedCheck db hpositive
      | some row => exact (rewrittenCheck_iff db).mpr (hold row hrow)
    · obtain ⟨hroom, hsession⟩ := hnew hnone
      show (db.rooms.contains room.id.value && db.sessions.contains request.sessionId.value) = true
      rw [hroom, hsession, Bool.and_self]
  have hcreated : min now (request.expiresAt - 1) ≤ I64_MAX := by omega
  unfold persistJoinRequest
  simp only [sqlInteger_fits hnow, sqlInteger_fits hexpiry, sqlInteger_fits hcreated, bind, Except.bind]
  exact congrArg (fun x => Except.bind (mapWrite x) fun joinRequests => Except.ok { db with joinRequests }) hwrite

theorem updateRoom_of {old : RoomRow} {before : Nat} (hold : db.rooms[room.id.value]? = some old)
    (hbefore : old.revision = before) (hfits : before ≤ I64_MAX) (hnow : now ≤ I64_MAX)
    (hrevision : room.revision ≤ I64_MAX) (hexpiry : room.expiresAt ≤ I64_MAX)
    (hcheck : db.roomConstraints.check (RoomRow.updated room now old) = true) :
    updateRoom room before now db =
      .ok ({ db with rooms := db.rooms.insert room.id.value (RoomRow.updated room now old) }, 1) := by
  have hupdate : Table.update db.roomConstraints (RoomRow.updated room now) room.id.value
      (fun old => decide (old.revision = (before : Int))) db.rooms =
      .ok (db.rooms.insert room.id.value (RoomRow.updated room now old), 1) :=
    Table.update_succeeds hold (by rw [hbefore]; simp) hcheck
  unfold updateRoom
  simp only [sqlInteger_fits hnow, sqlInteger_fits hrevision, sqlInteger_fits hexpiry, sqlInteger_fits hfits, bind,
    Except.bind]
  unfold RoomRow.updated at hupdate
  rw [hupdate]
  rfl

/-! ## The tables during a call -/

/-- The children of a room are being written: each row is as it was or as it will be. -/
structure Underway (db : Database) (room : Room) (now : Nat) (d : Database) : Prop where
  sessions : d.sessions = db.sessions
  rooms : d.rooms = db.rooms
  member : ∀ key : MemberKey, d.roomMembers[key]? = db.roomMembers[key]? ∨
    ∃ (s : SessionId) (m : Membership), room.memberships[s]? = some m ∧ key = ⟨room.id.value, s.value⟩ ∧
      d.roomMembers[key]? = some (MemberRow.write m now db.roomMembers[key]?)
  request : ∀ id : String, d.joinRequests[id]? = db.joinRequests[id]? ∨
    ∃ (q : RequestId) (r : JoinRequest), room.joinRequests[q]? = some r ∧ id = q.value ∧
      d.joinRequests[id]? = some (JoinRequestRow.write room.id r now db.joinRequests[id]?)

theorem write_state (roomId : RoomId) (r : JoinRequest) (now : Nat) (old : Option JoinRequestRow) :
    (JoinRequestRow.write roomId r now old).state = joinRequestStateText r.state := by
  cases old <;> rfl

theorem Underway.start (db : Database) (room : Room) (now : Nat) : Underway db room now db :=
  ⟨rfl, rfl, fun _ => .inl rfl, fun _ => .inl rfl⟩

/-- A row that is written twice is written once. -/
theorem MemberRow.write_write (m : Membership) (now : Nat) (old : Option MemberRow) :
    MemberRow.write m now (some (MemberRow.write m now old)) = MemberRow.write m now old := by
  cases old <;> rfl

theorem JoinRequestRow.write_write (roomId : RoomId) (r : JoinRequest) (now : Nat) (old : Option JoinRequestRow) :
    JoinRequestRow.write roomId r now (some (JoinRequestRow.write roomId r now old)) =
      JoinRequestRow.write roomId r now old := by
  cases old <;> rfl

namespace Underway

variable {d : Database}

theorem writeMember (h : Underway db room now d) {s : SessionId} {m : Membership} (hm : room.memberships[s]? = some m) :
    MemberRow.write m now d.roomMembers[(⟨room.id.value, s.value⟩ : MemberKey)]? =
      MemberRow.write m now db.roomMembers[(⟨room.id.value, s.value⟩ : MemberKey)]? := by
  rcases h.member ⟨room.id.value, s.value⟩ with hsame | ⟨s', m', hm', hkey, hwritten⟩
  · rw [hsame]
  · have hs : s = s' := Identifier.ext (MemberKey.mk.inj hkey).2
    subst hs
    rw [hm] at hm'
    cases hm'
    rw [hwritten, MemberRow.write_write]

theorem writeRequest (h : Underway db room now d) {q : RequestId} {r : JoinRequest}
    (hr : room.joinRequests[q]? = some r) :
    JoinRequestRow.write room.id r now d.joinRequests[q.value]? =
      JoinRequestRow.write room.id r now db.joinRequests[q.value]? := by
  rcases h.request q.value with hsame | ⟨q', r', hr', hid, hwritten⟩
  · rw [hsame]
  · have hq : q = q' := Identifier.ext hid
    subst hq
    rw [hr] at hr'
    cases hr'
    rw [hwritten, JoinRequestRow.write_write]

/-- The rows that are there keep the times that they were created at. -/
theorem memberCreated (h : Underway db room now d) {key : MemberKey} {row : MemberRow}
    (hrow : d.roomMembers[key]? = some row)
    (hold : ∀ old, db.roomMembers[key]? = some old → 0 ≤ old.createdAtMs ∧ old.createdAtMs ≤ now) :
    0 ≤ row.createdAtMs ∧ row.createdAtMs ≤ now := by
  rcases h.member key with hsame | ⟨s, m, -, -, hwritten⟩
  · exact hold row (hsame ▸ hrow)
  · rw [hwritten] at hrow
    cases hrow
    cases hdb : db.roomMembers[key]? with
    | none => exact ⟨Int.natCast_nonneg now, le_refl _⟩
    | some old => exact hold old hdb

theorem requestCreated (h : Underway db room now d) {id : String} {row : JoinRequestRow} {expiresAt : Nat}
    (hexpiry : 0 < expiresAt) (hrow : d.joinRequests[id]? = some row)
    (hexpires : ∀ (q : RequestId) (r : JoinRequest), room.joinRequests[q]? = some r → id = q.value →
      r.expiresAt = expiresAt)
    (hold : ∀ old, db.joinRequests[id]? = some old →
      (0 ≤ old.createdAtMs ∧ old.createdAtMs ≤ now) ∧ old.createdAtMs < expiresAt) :
    (0 ≤ row.createdAtMs ∧ row.createdAtMs ≤ now) ∧ row.createdAtMs < expiresAt := by
  rcases h.request id with hsame | ⟨q, r, hr, hid, hwritten⟩
  · exact hold row (hsame ▸ hrow)
  · rw [hwritten] at hrow
    cases hrow
    cases hdb : db.joinRequests[id]? with
    | none =>
      show (0 ≤ ((min now (r.expiresAt - 1) : Nat) : Int) ∧ ((min now (r.expiresAt - 1) : Nat) : Int) ≤ now) ∧
        ((min now (r.expiresAt - 1) : Nat) : Int) < expiresAt
      have := hexpires q r hr hid
      omega
    | some old => exact hold old hdb

/-- A row that is written stays within the rows underway. -/
theorem insertMember (h : Underway db room now d) {s : SessionId} {m : Membership}
    (hm : room.memberships[s]? = some m) :
    Underway db room now { d with
      roomMembers := d.roomMembers.insert ⟨room.id.value, s.value⟩
        (MemberRow.write m now d.roomMembers[(⟨room.id.value, s.value⟩ : MemberKey)]?) } where
  sessions := h.sessions
  rooms := h.rooms
  request := h.request
  member key := by
    by_cases hkey : (⟨room.id.value, s.value⟩ : MemberKey) = key
    · subst hkey
      right
      refine ⟨s, m, hm, rfl, ?_⟩
      rw [BTreeMap.getElem?_insert, if_pos rfl, h.writeMember hm]
    · rw [BTreeMap.getElem?_insert, if_neg hkey]
      exact h.member key

theorem insertRequest (h : Underway db room now d) {q : RequestId} {r : JoinRequest}
    (hr : room.joinRequests[q]? = some r) :
    Underway db room now { d with
      joinRequests := d.joinRequests.insert q.value
        (JoinRequestRow.write room.id r now d.joinRequests[q.value]?) } where
  sessions := h.sessions
  rooms := h.rooms
  member := h.member
  request id := by
    by_cases hid : q.value = id
    · subst hid
      right
      refine ⟨q, r, hr, rfl, ?_⟩
      rw [BTreeMap.getElem?_insert, if_pos rfl, h.writeRequest hr]
    · rw [BTreeMap.getElem?_insert, if_neg hid]
      exact h.request id

end Underway

/-! ## Whole calls -/

/-- The call of a command, from what its steps return. -/
theorem applyRoomCommand_of {expected : Option Nat} {db₁ db₂ : Database}
    (hload : loadRoomOn db code = .ok (some loaded)) (hexpected : ∀ revision, expected = some revision → revision = loaded.revision)
    (hhandle : loaded.handle command = (.ok .CHANGED, room))
    (hupdate : updateRoom room loaded.revision now db = .ok (db₁, 1))
    (hpersist : persistRoomChildren room now db₁ = .ok db₂) :
    applyRoomCommand code expected command now db = (.ok ⟨room, .CHANGED⟩, db₂) := by
  have hfilter : expected.filter (· ≠ loaded.revision) = none := by
    cases expected with
    | none => rfl
    | some revision => simp [hexpected revision rfl]
  have hbody : applyRoomCommandOn code expected command now db = .ok (⟨room, .CHANGED⟩, db₂) := by
    unfold applyRoomCommandOn
    simp only [hload, hfilter, hhandle, hupdate, hpersist, bind, Except.bind]
    rfl
  unfold applyRoomCommand transaction
  rw [hbody]

theorem applyRoomCommand_unchanged {expected : Option Nat} (hload : loadRoomOn db code = .ok (some loaded))
    (hexpected : ∀ revision, expected = some revision → revision = loaded.revision)
    (hhandle : loaded.handle command = (.ok .UNCHANGED, room)) :
    applyRoomCommand code expected command now db = (.ok ⟨room, .UNCHANGED⟩, db) := by
  have hfilter : expected.filter (· ≠ loaded.revision) = none := by
    cases expected with
    | none => rfl
    | some revision => simp [hexpected revision rfl]
  have hbody : applyRoomCommandOn code expected command now db = .ok (⟨room, .UNCHANGED⟩, db) := by
    unfold applyRoomCommandOn
    simp only [hload, hfilter, hhandle, bind, Except.bind]
    rfl
  unfold applyRoomCommand transaction
  rw [hbody]

end P2PTransmission
