import P2PTransmission.Storage.Isolation
import P2PTransmission.Storage.Underway

/-!
# Clocks and the schema

A call reads its clock before it gets the write lock, so the times of the commits need not increase, and a commit writes
its own time as `updated_at_ms` into every row of its room. `unrefused_iff` says when the schema accepts what the domain
accepted: no row of the room was created after the clock of the call, and a row of another room whose id a new request
takes (`ForeignRequest`) can be rewritten as well.
-/

set_option autoImplicit false

namespace P2PTransmission

open Storage Database
open Room (ownerOne requestOne)

variable {db db' : Database} {room loaded : Room} {now : Nat} {code : RoomCode} {command : RoomCommand}

/-! ## The condition -/

/-- No row of the room was created after `now`. -/
structure CreatedBy (db : Database) (roomId : String) (now : Nat) : Prop where
  room : ∀ row : RoomRow, db.rooms[roomId]? = some row → row.createdAtMs ≤ now
  member : ∀ (session : String) (row : MemberRow), db.roomMembers[(⟨roomId, session⟩ : MemberKey)]? = some row →
    row.createdAtMs ≤ now
  request : ∀ (id : String) (row : JoinRequestRow), db.joinRequests[id]? = some row → row.roomId = roomId →
    row.createdAtMs ≤ now

/-- The row under `id` can become a pending request with this expiry at `now`. -/
structure Renewable (db : Database) (id : String) (row : JoinRequestRow) (expiresAt now : Nat) : Prop where
  createdAt : row.createdAtMs ≤ now
  expiresAt : row.createdAtMs < expiresAt
  alone : ∀ (other : String) (row' : JoinRequestRow), other ≠ id → db.joinRequests[other]? = some row' →
    row'.state = "pending" → row.roomId = row'.roomId → row.sessionId ≠ row'.sessionId

/-- The domain accepts the command on the stored room, the session that asks to join is stored, and the numbers fit into
a column. -/
structure Accepted (db : Database) (code : RoomCode) (expected : Option Nat) (command : RoomCommand) (now : Nat)
    (loaded room : Room) (outcome : RoomCommandOutcome) : Prop where
  load : loadRoomOn db code = .ok (some loaded)
  expected : ∀ revision, expected = some revision → revision = loaded.revision
  handle : loaded.handle command = (.ok outcome, room)
  session : ∀ (q : RequestId) (s : SessionId) (at' expiresAt : Nat), command = .requestJoin q s at' expiresAt →
    db.sessions.contains s.value = true
  now : now ≤ I64_MAX
  revision : room.revision ≤ I64_MAX
  expiresAt : room.expiresAt ≤ I64_MAX

namespace Storage

/-- The schema does not refuse a command that the domain accepts. -/
def Call.Unrefused (db : Database) : Call → Prop
  | .applyRoomCommand code expected command now => ∀ loaded room outcome,
      Accepted db code expected command now loaded room outcome →
        ∃ mutation db', Storage.applyRoomCommand code expected command now db = (.ok mutation, db')
  | _ => True

/-- A command that changes a room is given a clock that suits the rows it rewrites. -/
def Call.Timely (db : Database) : Call → Prop
  | .applyRoomCommand code expected command now => ∀ loaded room,
      Accepted db code expected command now loaded room .CHANGED → CreatedBy db loaded.id.value now ∧
        ∀ (q : RequestId) (s : SessionId) (at' expiresAt : Nat) (row : JoinRequestRow),
          command = .requestJoin q s at' expiresAt → ForeignRequest db code q row →
            Renewable db q.value row expiresAt now
  | _ => True

end Storage

/-! ## Pending requests -/

section Pending

variable {next : Room} {q : RequestId} {r : JoinRequest}

/-- A row that is written as pending was pending, or is that of the request that the command asks for. -/
theorem written_conflicts (heffect : Room.Effect loaded command next)
    (hstored : StoresRequests db loaded.id.value loaded.joinRequests) (hr : next.joinRequests[q]? = some r)
    (hpending : (JoinRequestRow.write loaded.id r now db.joinRequests[q.value]?).state = "pending") :
    (∃ old, db.joinRequests[q.value]? = some old ∧ ∀ row',
        (JoinRequestRow.write loaded.id r now db.joinRequests[q.value]?).Conflicts row' → old.Conflicts row') ∨
      (loaded.joinRequests[q]? = none ∧ ∃ at', command = .requestJoin q r.sessionId at' r.expiresAt) := by
  rw [write_state] at hpending
  have hpending : r.state = .pending := joinRequestStateText_injective hpending
  rcases heffect.pendingRequest hr hpending with hold | hnew
  · left
    obtain ⟨old, hrow, hholds⟩ := hstored.stored q r hold
    refine ⟨old, hrow, fun row' hconflict => ?_⟩
    rw [hrow] at hconflict
    obtain ⟨-, hpending', hroom, hsession⟩ := hconflict
    exact ⟨by rw [hholds.state, hpending]; rfl, hpending', hroom, hsession⟩
  · exact .inr hnew

/-- The new request conflicts with no row that is there. -/
theorem requested_free (heffect : Room.Effect loaded command next)
    (hstored : StoresRequests db loaded.id.value loaded.joinRequests) {s : SessionId} {at' : Nat}
    (hfresh : loaded.joinRequests[q]? = none) (hcommand : command = .requestJoin q s at' r.expiresAt)
    (hsession : r.sessionId = s)
    (hforeign : ∀ row, db.joinRequests[q.value]? = some row → row.roomId ≠ loaded.id.value →
      Renewable db q.value row r.expiresAt now)
    {other : String} {row' : JoinRequestRow} (hother : other ≠ q.value) (hrow' : db.joinRequests[other]? = some row') :
    ¬ (JoinRequestRow.write loaded.id r now db.joinRequests[q.value]?).Conflicts row' := by
  rintro ⟨-, hpending, hroom, hsame⟩
  cases hold : db.joinRequests[q.value]? with
  | none =>
    rw [hold] at hroom hsame
    obtain ⟨q', r', rfl, hr'⟩ := hstored.only other row' hrow' hroom.symm
    obtain ⟨row, hrow, hholds⟩ := hstored.stored q' r' hr'
    rw [hrow'] at hrow
    cases hrow
    refine heffect.requestAlone hcommand hr' ?_ (joinRequestStateText_injective (hholds.state.symm.trans hpending))
    have hvalue : r.sessionId.value = r'.sessionId.value := hsame.trans hholds.session
    rw [← hsession]
    exact Identifier.ext hvalue.symm
  | some old =>
    rw [hold] at hroom hsame
    have hown : old.roomId ≠ loaded.id.value := by
      intro hown
      obtain ⟨q', r', hq, hr'⟩ := hstored.only q.value old hold hown
      have hq : q = q' := Identifier.ext hq
      rw [← hq, hfresh] at hr'
      cases hr'
    exact (hforeign old hold hown).alone other row' hother hrow' hpending hroom hsame

/-- **No two rows of requests conflict while a room is written.** -/
theorem underway_free (h : Lawful db) (heffect : Room.Effect loaded command next)
    (hstored : StoresRequests db loaded.id.value loaded.joinRequests)
    (hforeign : ∀ (q : RequestId) (s : SessionId) (at' expiresAt : Nat) (row : JoinRequestRow),
      command = .requestJoin q s at' expiresAt → db.joinRequests[q.value]? = some row →
        row.roomId ≠ loaded.id.value → Renewable db q.value row expiresAt now)
    (hr : next.joinRequests[q]? = some r) {other : String} {row' : JoinRequestRow} (hother : other ≠ q.value)
    (hrow' : db.joinRequests[other]? = some row' ∨ ∃ (q' : RequestId) (r' : JoinRequest),
      next.joinRequests[q']? = some r' ∧ other = q'.value ∧
        row' = JoinRequestRow.write loaded.id r' now db.joinRequests[other]?) :
    ¬ (JoinRequestRow.write loaded.id r now db.joinRequests[q.value]?).Conflicts row' := by
  -- against a row that is there
  have hthere : ∀ {p : RequestId} {t : JoinRequest}, next.joinRequests[p]? = some t → ∀ {id : String}
      {row : JoinRequestRow}, id ≠ p.value → db.joinRequests[id]? = some row →
      ¬ (JoinRequestRow.write loaded.id t now db.joinRequests[p.value]?).Conflicts row := by
    intro p t ht id row hid hrow hconflict
    rcases written_conflicts heffect hstored ht hconflict.1 with ⟨old, hold, hold'⟩ | ⟨hfresh, at', hcommand⟩
    · exact hid (h.joinRequests.unique p.value id old row hold hrow (hold' row hconflict)).symm
    · exact requested_free heffect hstored hfresh hcommand rfl
        (fun row hrow hne => hforeign p _ _ _ row hcommand hrow hne) hid hrow hconflict
  intro hconflict
  rcases hrow' with hrow' | ⟨q', r', hr', rfl, rfl⟩
  · exact hthere hr hother hrow' hconflict
  · rcases written_conflicts heffect hstored hr' hconflict.2.1 with ⟨old', hold', hwas'⟩ | ⟨-, at', hcommand'⟩
    · exact hthere hr hother hold' (hwas' _ hconflict.symm).symm
    · rcases written_conflicts heffect hstored hr hconflict.1 with ⟨old, hold, hwas⟩ | ⟨-, at'', hcommand⟩
      · exact hthere hr' (Ne.symm hother) hold (hwas _ hconflict).symm
      · rw [hcommand] at hcommand'
        have hsame : q = q' := (RoomCommand.requestJoin.inj hcommand').1
        exact hother (congrArg Identifier.value hsame.symm)

end Pending

/-! ## Timely calls succeed -/

/-- The change of a loaded room, before it is written. -/
structure Changing (db : Database) (loaded : Room) (command : RoomCommand) (room : Room) : Prop where
  lawful : Lawful db
  row : ∃ row, db.rooms[loaded.id.value]? = some row ∧ row.Holds loaded
  members : StoresMembers db loaded.id.value loaded.memberships
  requests : StoresRequests db loaded.id.value loaded.joinRequests
  effect : ∃ next, Room.Effect loaded command next ∧ room = { next with revision := loaded.revision + 1 }

theorem Accepted.changing {expected : Option Nat} (h : Lawful db)
    (haccepted : Accepted db code expected command now loaded room .CHANGED) : Changing db loaded command room := by
  obtain ⟨-, -, hmembers, hrequests, -⟩ := loadRoomAt_some.mp haccepted.load
  exact ⟨h, loadRoomOn_row haccepted.load, hmembers, hrequests, Room.handle_changed haccepted.handle⟩

theorem Changing.same (h : Changing db loaded command room) : Room.SameRoom loaded room := by
  obtain ⟨next, heffect, rfl⟩ := h.effect
  exact ⟨heffect.same.id, heffect.same.code, heffect.same.owner, heffect.same.expiresAt⟩

theorem requestRow_times (h : Lawful db) {id : String} {row : JoinRequestRow} (hrow : db.joinRequests[id]? = some row) :
    0 ≤ row.createdAtMs ∧ row.createdAtMs < row.expiresAtMs := by
  have hcheck : (_ && checkTimes row.createdAtMs row.updatedAtMs && decide (row.createdAtMs < row.expiresAtMs)) = true :=
    h.joinRequests.check id row hrow
  rw [Bool.and_eq_true, Bool.and_eq_true, checkTimes_iff, decide_eq_true_eq] at hcheck
  exact ⟨hcheck.1.2.1, hcheck.2⟩

theorem memberRow_time (h : Lawful db) {key : MemberKey} {row : MemberRow} (hrow : db.roomMembers[key]? = some row) :
    0 ≤ row.createdAtMs := by
  have hcheck : (_ && checkTimes row.createdAtMs row.updatedAtMs && _) = true := h.roomMembers.check key row hrow
  rw [Bool.and_eq_true, Bool.and_eq_true, checkTimes_iff] at hcheck
  exact hcheck.1.2.1

theorem roomRow_times (h : Lawful db) {id : String} {row : RoomRow} (hrow : db.rooms[id]? = some row) :
    0 ≤ row.createdAtMs ∧ row.createdAtMs < row.expiresAtMs := by
  have hcheck : (_ && checkTimes row.createdAtMs row.updatedAtMs && decide (row.createdAtMs < row.expiresAtMs)) = true :=
    h.rooms.check id row hrow
  rw [Bool.and_eq_true, Bool.and_eq_true, checkTimes_iff, decide_eq_true_eq] at hcheck
  exact ⟨hcheck.1.2.1, hcheck.2⟩

/-- A foreign row is one that the load did not see. -/
theorem Changing.foreign (h : Changing db loaded command room) {q : RequestId} {row : JoinRequestRow}
    (hfresh : loaded.joinRequests[q]? = none) (hrow : db.joinRequests[q.value]? = some row) :
    row.roomId ≠ loaded.id.value := by
  intro hown
  obtain ⟨q', r', hq, hr'⟩ := h.requests.only q.value row hrow hown
  have hq : q = q' := Identifier.ext hq
  rw [← hq, hfresh] at hr'
  cases hr'

section Writes

variable {d : Database} {old : RoomRow}
  (h : Changing db loaded command room) (hnow : now ≤ I64_MAX) (hexpiry : room.expiresAt ≤ I64_MAX)
  (hsession : ∀ (q : RequestId) (s : SessionId) (at' expiresAt : Nat), command = .requestJoin q s at' expiresAt →
    db.sessions.contains s.value = true)
  (hcreated : CreatedBy db loaded.id.value now)
  (hforeign : ∀ (q : RequestId) (s : SessionId) (at' expiresAt : Nat) (row : JoinRequestRow),
    command = .requestJoin q s at' expiresAt → db.joinRequests[q.value]? = some row →
      row.roomId ≠ loaded.id.value → Renewable db q.value row expiresAt now)
  (hdb' : db' = { db with rooms := db.rooms.insert room.id.value (RoomRow.updated room now old) })

include h hnow hcreated hdb' in
theorem memberWrite {membership : RoomMembershipSnapshot} (hmem : membership ∈ room.membershipSnapshots)
    (hunderway : Underway db' room now d) :
    ∃ d', persistMembership room now d membership = .ok d' ∧ Underway db' room now d' := by
  obtain ⟨next, heffect, hroom⟩ := h.effect
  have hid : room.id = loaded.id := h.same.id
  have hm := mem_membershipSnapshots.mp hmem
  refine ⟨_, persistMembership_of rfl hnow (fun row hrow => ?_) (fun hnone => ?_), hunderway.insertMember hm⟩
  · refine hunderway.memberCreated hrow fun row hrow => ?_
    rw [hdb', hid] at hrow
    exact ⟨memberRow_time h.lawful hrow, hcreated.member _ row hrow⟩
  · have hrooms : d.rooms.contains room.id.value = true := by
      rw [hunderway.rooms, hdb', Std.ExtTreeMap.contains_insert_self]
    refine ⟨hrooms, ?_⟩
    have hnone' : db.roomMembers[(⟨loaded.id.value, membership.sessionId.value⟩ : MemberKey)]? = none := by
      rcases hunderway.member ⟨room.id.value, membership.sessionId.value⟩ with hsame | ⟨_, _, _, _, hwritten⟩
      · rw [← hid, ← hnone, hsame, hdb']
      · rw [hnone] at hwritten
        cases hwritten
    have hloaded : loaded.memberships[membership.sessionId]? = none := by
      cases hl : loaded.memberships[membership.sessionId]? with
      | none => rfl
      | some m =>
        obtain ⟨row, hrow, -⟩ := h.members.stored _ m hl
        rw [hnone'] at hrow
        cases hrow
    rw [hroom] at hm
    obtain ⟨q, r, hr, hs⟩ := heffect.newMember hm hloaded
    obtain ⟨row, hrow, hholds⟩ := h.requests.stored q r hr
    have hstored := h.lawful.requestSession hrow
    rw [hholds.session, hs] at hstored
    rw [hunderway.sessions, hdb']
    exact hstored

include h hnow hexpiry hsession hcreated hforeign hdb' in
theorem requestWrite (hwithin : Room.Within room) {request : RoomJoinRequestSnapshot}
    (hmem : request ∈ room.joinRequestSnapshots) (hunderway : Underway db' room now d) :
    ∃ d', persistJoinRequest room now d request = .ok d' ∧ Underway db' room now d' := by
  obtain ⟨next, heffect, hroom⟩ := h.effect
  have hid : room.id = loaded.id := h.same.id
  have hr := mem_joinRequestSnapshots.mp hmem
  have hnext : next.joinRequests[request.requestId]? = some ⟨request.sessionId, request.expiresAt, request.state⟩ := by
    rw [hroom] at hr
    exact hr
  -- the request is one of the loaded room, or the one that the command asks for
  have hcases : (∃ state, loaded.joinRequests[request.requestId]? =
        some ⟨request.sessionId, request.expiresAt, state⟩) ∨
      (loaded.joinRequests[request.requestId]? = none ∧
        ∃ at', command = .requestJoin request.requestId request.sessionId at' request.expiresAt) := by
    cases hl : loaded.joinRequests[request.requestId]? with
    | none =>
      obtain ⟨at', hcommand, -⟩ := heffect.newRequest hnext hl
      exact .inr ⟨rfl, at', hcommand⟩
    | some r =>
      obtain ⟨sessionId, expiresAt, before⟩ := r
      obtain ⟨state, hkept⟩ := heffect.keepsRequest hl
      rw [hnext] at hkept
      cases hkept
      exact .inl ⟨before, rfl⟩
  have htimes : ∀ row, db.joinRequests[request.requestId.value]? = some row →
      (0 ≤ row.createdAtMs ∧ row.createdAtMs ≤ now) ∧ row.createdAtMs < request.expiresAt := by
    intro row hrow
    obtain ⟨hnonneg, hbefore⟩ := requestRow_times h.lawful hrow
    rcases hcases with ⟨state, hl⟩ | ⟨hfresh, at', hcommand⟩
    · obtain ⟨row', hrow', hholds⟩ := h.requests.stored _ _ hl
      rw [hrow] at hrow'
      cases hrow'
      rw [hholds.expiresAt] at hbefore
      exact ⟨⟨hnonneg, hcreated.request _ row hrow hholds.room⟩, hbefore⟩
    · have hrenewable := hforeign _ _ _ _ row hcommand hrow (h.foreign hfresh hrow)
      exact ⟨⟨hnonneg, hrenewable.createdAt⟩, hrenewable.expiresAt⟩
  have hpositive : 0 < request.expiresAt := by
    rcases hcases with ⟨state, hl⟩ | ⟨-, at', hcommand⟩
    · obtain ⟨row, hrow, hholds⟩ := h.requests.stored _ _ hl
      obtain ⟨hnonneg, hbefore⟩ := requestRow_times h.lawful hrow
      have := hholds.expiresAt
      dsimp only at this
      omega
    · exact heffect.requestExpiry hcommand
  refine ⟨_, persistJoinRequest_of rfl hnow (le_trans (hwithin _ _ hr) hexpiry) hpositive (fun row hrow => ?_) ?_
    (fun hnone => ?_), hunderway.insertRequest hr⟩
  · refine hunderway.requestCreated hpositive hrow (fun q r hr' hq => ?_) fun row hrow => ?_
    · have hq : request.requestId = q := Identifier.ext hq
      rw [← hq, hr] at hr'
      cases hr'
      rfl
    · rw [hdb'] at hrow
      exact htimes row hrow
  · refine (joinRequestConstraints_forbids d).of_free fun other row' hother hrow' => ?_
    rw [hunderway.writeRequest hr, hid, hdb']
    refine underway_free h.lawful heffect h.requests hforeign hnext hother ?_
    rcases hunderway.request other with hsame | ⟨q', r', hr', hq', hwritten⟩
    · rw [hsame, hdb'] at hrow'
      exact .inl hrow'
    · rw [hwritten, hdb', hid] at hrow'
      refine .inr ⟨q', r', ?_, hq', (Option.some.inj hrow').symm⟩
      rw [hroom] at hr'
      exact hr'
  · have hrooms : d.rooms.contains room.id.value = true := by
      rw [hunderway.rooms, hdb', Std.ExtTreeMap.contains_insert_self]
    refine ⟨hrooms, ?_⟩
    rw [hunderway.sessions, hdb']
    rcases hcases with ⟨state, hl⟩ | ⟨-, at', hcommand⟩
    · obtain ⟨row, hrow, hholds⟩ := h.requests.stored _ _ hl
      have hstored := h.lawful.requestSession hrow
      rw [hholds.session] at hstored
      exact hstored
    · exact hsession _ _ _ _ hcommand

end Writes

/-- A timely command that the domain accepts is written. -/
theorem Accepted.succeeds {expected : Option Nat} (h : Lawful db)
    (haccepted : Accepted db code expected command now loaded room .CHANGED)
    (hcreated : CreatedBy db loaded.id.value now)
    (hforeign : ∀ (q : RequestId) (s : SessionId) (at' expiresAt : Nat) (row : JoinRequestRow),
      command = .requestJoin q s at' expiresAt → db.joinRequests[q.value]? = some row →
        row.roomId ≠ loaded.id.value → Renewable db q.value row expiresAt now) :
    ∃ mutation db', applyRoomCommand code expected command now db = (.ok mutation, db') := by
  have hchanging := haccepted.changing h
  obtain ⟨old, hold, hholds⟩ := hchanging.row
  obtain ⟨next, heffect, hroom⟩ := hchanging.effect
  have hid : room.id = loaded.id := hchanging.same.id
  have hexpires : room.expiresAt = loaded.expiresAt := hchanging.same.expiresAt
  have hrevision : room.revision = loaded.revision + 1 := by rw [hroom]
  have hwithin : Room.Within room := by
    obtain ⟨-, -, -, -, -, hwithin⟩ := loadRoomAt_some.mp haccepted.load
    rw [hroom]
    exact heffect.within hwithin
  have hcheck : db.roomConstraints.check (RoomRow.updated room now old) = true := by
    obtain ⟨hnonneg, hbefore⟩ := roomRow_times h hold
    have hexpiry := hholds.expiresAt
    refine (roomCheck_iff db).mpr ⟨by omega, ⟨hnonneg, hcreated.room old hold⟩, ?_⟩
    omega
  have hfits : loaded.revision ≤ I64_MAX := by
    have := haccepted.revision
    omega
  have hupdate := updateRoom_of (by rw [hid]; exact hold) hholds.revision hfits haccepted.now haccepted.revision
    haccepted.expiresAt hcheck
  obtain ⟨db₁, hmembers, hunderway⟩ : ∃ db₁, room.membershipSnapshots.foldlM (persistMembership room now)
      { db with rooms := db.rooms.insert room.id.value (RoomRow.updated room now old) } = .ok db₁ ∧
      Underway { db with rooms := db.rooms.insert room.id.value (RoomRow.updated room now old) } room now db₁ := by
    obtain ⟨db₁, hmembers⟩ := foldlM_succeeds (fun d membership hmem hunderway =>
      memberWrite hchanging haccepted.now hcreated rfl hmem hunderway) (Underway.start _ room now)
    refine ⟨db₁, hmembers, foldlM_keeps (fun d membership d' hmem hunderway hd => ?_) hmembers (Underway.start _ _ _)⟩
    obtain ⟨d'', hd', hunderway'⟩ := memberWrite hchanging haccepted.now hcreated rfl hmem hunderway
    rw [hd] at hd'
    cases hd'
    exact hunderway'
  obtain ⟨db₂, hrequests⟩ := foldlM_succeeds (fun d request hmem hunderway =>
    requestWrite hchanging haccepted.now haccepted.expiresAt haccepted.session hcreated hforeign rfl hwithin hmem
      hunderway) hunderway
  refine ⟨_, db₂, applyRoomCommand_of haccepted.load haccepted.expected haccepted.handle hupdate ?_⟩
  unfold persistRoomChildren
  rw [hmembers]
  exact hrequests

/-! ## Calls that succeed are timely -/

/-- What a call wrote passed the checks, so nothing that it rewrote was created after its clock. -/
theorem Mutated.createdBy (h : Mutated db code loaded command room now db') (hlawful : Lawful db') :
    CreatedBy db loaded.id.value now := by
  obtain ⟨-, -, hmembers, hrequests, -⟩ := loadRoomAt_some.mp h.load
  obtain ⟨next, heffect, hroom⟩ := Room.handle_changed h.handle
  have hid : room.id = loaded.id := h.same.id
  constructor
  · intro row hrow
    have hwritten : db'.rooms[room.id.value]? = some (RoomRow.updated room now row) :=
      h.commit.roomRow.mpr ⟨row, by rw [hid]; exact hrow, (if_pos rfl).symm⟩
    exact ((roomCheck_iff db').mp (hlawful.rooms.check _ _ hwritten)).2.1.2
  · intro session row hrow
    obtain ⟨s, m, rfl, hm⟩ := hmembers.only session row hrow
    obtain ⟨m', hm'⟩ := heffect.keepsMember hm
    have hwritten := h.commit.member (s := s) (m := m') (by rw [hroom]; exact hm')
    rw [hid, hrow] at hwritten
    exact ((memberCheck_iff db' m' now _).mp (hlawful.roomMembers.check _ _ hwritten) row rfl).2
  · intro id row hrow hown
    obtain ⟨q, r, rfl, hr⟩ := hrequests.only id row hrow hown
    obtain ⟨state, hr'⟩ := h.keepsRequest hr
    have hwritten := h.commit.request hr'
    rw [hrow] at hwritten
    exact ((rewrittenCheck_iff db').mp (hlawful.joinRequests.check _ _ hwritten)).1.2

theorem Mutated.renewable (h : Mutated db code loaded command room now db') (hlawful : Lawful db') {q : RequestId}
    {s : SessionId} {at' expiresAt : Nat} (hcommand : command = .requestJoin q s at' expiresAt) {row : JoinRequestRow}
    (hforeign : ForeignRequest db code q row) : Renewable db q.value row expiresAt now := by
  obtain ⟨hrow, hne⟩ := h.foreign_iff.mp hforeign
  have hwritten := h.overwrites hcommand hrow
  obtain ⟨⟨-, hcreated⟩, hbefore⟩ := (rewrittenCheck_iff db').mp (hlawful.joinRequests.check _ _ hwritten)
  refine ⟨hcreated, hbefore, fun other row' hother hrow' hpending hroom hsession => ?_⟩
  -- the other row is of a room that the call does not write to, so it is still there
  have hkept : db'.joinRequests[other]? = some row' := by
    rw [h.commit.requestOther fun q' r' hr' hq' => ?_]
    · exact hrow'
    subst hq'
    obtain ⟨hfresh, -⟩ := h.requested hcommand
    cases hl : loaded.joinRequests[q']? with
    | some r =>
      have hown := (h.loaded_iff hrow').mp ⟨r, hl⟩
      exact hne (hroom.trans hown)
    | none =>
      obtain ⟨_, hcommand', -⟩ := h.newRequest hr' hl
      rw [hcommand] at hcommand'
      exact hother (congrArg Identifier.value (RoomCommand.requestJoin.inj hcommand').1.symm)
  exact hother (hlawful.joinRequests.unique _ _ _ _ hkept hwritten
    ⟨hpending, rfl, hroom.symm, hsession.symm⟩)

/-- **What the domain accepts is written exactly if the clock of the call suits the rows that it rewrites.** -/
theorem Storage.Call.unrefused_iff (h : Lawful db) (call : Call) : call.Unrefused db ↔ call.Timely db := by
  cases call with
  | insertSession | insertRoom => exact Iff.rfl
  | applyRoomCommand code expected command now =>
    constructor
    · intro hunrefused loaded room haccepted
      obtain ⟨mutation, db', hcall⟩ := hunrefused loaded room .CHANGED haccepted
      have hlawful : Lawful db' := by
        have := applyRoomCommand_lawful h code expected command now
        rwa [hcall] at this
      rcases applyRoomCommand_mutated hcall with ⟨-, -, hload, hhandle⟩ | ⟨-, loaded', hm⟩
      · rw [haccepted.load] at hload
        cases hload
        have hhandle' := haccepted.handle
        rw [hhandle] at hhandle'
        cases hhandle'
      · have hload := hm.load
        rw [haccepted.load] at hload
        cases hload
        exact ⟨hm.createdBy hlawful, fun q s at' expiresAt row hcommand hforeign =>
          hm.renewable hlawful hcommand hforeign⟩
    · intro htimely loaded room outcome haccepted
      cases hchanged : outcome.changed with
      | true =>
        have houtcome : outcome = .CHANGED := by
          cases outcome
          exact congrArg RoomCommandOutcome.mk hchanged
        subst houtcome
        obtain ⟨hcreated, hforeign⟩ := htimely loaded room haccepted
        refine haccepted.succeeds h hcreated fun q s at' expiresAt row hcommand hrow hne => ?_
        obtain ⟨⟨roomRow, hselect, -⟩, -⟩ := loadRoomAt_some.mp haccepted.load
        exact hforeign q s at' expiresAt row hcommand ⟨hrow, _, roomRow, hselect, hne⟩
      | false =>
        have houtcome : outcome = .UNCHANGED := by
          cases outcome
          exact congrArg RoomCommandOutcome.mk hchanged
        subst houtcome
        exact ⟨_, _, applyRoomCommand_unchanged haccepted.load haccepted.expected haccepted.handle⟩

/-- **Commands in any order of commits.** The schema refuses no command that the domain accepts, exactly if every
command that changes a room comes with a clock that suits the rows it rewrites. -/
theorem commands_unrefused_iff (calls : List Call) :
    (∀ db call db', Taken Call.step Database.empty calls db call db' → call.Unrefused db) ↔
      ∀ db call db', Taken Call.step Database.empty calls db call db' → call.Timely db := by
  have hstep : ∀ db call db', Taken Call.step Database.empty calls db call db' →
      (call.Unrefused db ↔ call.Timely db) := by
    intro db call db' htaken
    obtain ⟨pre, hrun⟩ := htaken.before.run
    exact Call.unrefused_iff (Reachable.lawful ⟨pre, hrun⟩) call
  constructor
  · intro hunrefused db call db' htaken
    exact (hstep db call db' htaken).mp (hunrefused db call db' htaken)
  · intro htimely db call db' htaken
    exact (hstep db call db' htaken).mpr (htimely db call db' htaken)

/-! ## A clock that was read early -/

/-- Another guest asks to join the first room, with a clock that was read before the commit of the first guest. -/
def lateCall : Call := .applyRoomCommand codeOne none (.requestJoin requestTwo guestTwo 5 500) 5

/-- The other guest is accepted by the domain and refused by the schema. -/
theorem commands_unrefused_breaks : ¬ ∀ calls db call db',
    Taken Call.step Database.empty calls db call db' → call.Unrefused db := by
  intro hunrefused
  obtain ⟨loaded, hload⟩ := waitingRoom_load
  have hhandle : (loadRoomOn twoRooms codeOne).toOption.map (Option.map fun room =>
      let handled := room.handle (.requestJoin requestTwo guestTwo 5 500)
      (handled.1.toOption.map RoomCommandOutcome.changed, handled.2.revision, handled.2.expiresAt)) =
      some (some (some true, 3, 1000)) := by decide +kernel
  rw [hload] at hhandle
  have hhandle : ((loaded.handle (.requestJoin requestTwo guestTwo 5 500)).1.toOption.map RoomCommandOutcome.changed,
      (loaded.handle (.requestJoin requestTwo guestTwo 5 500)).2.revision,
      (loaded.handle (.requestJoin requestTwo guestTwo 5 500)).2.expiresAt) = (some true, 3, 1000) :=
    Option.some.inj (Option.some.inj hhandle)
  cases hresult : loaded.handle (.requestJoin requestTwo guestTwo 5 500) with
  | mk result room =>
    rw [hresult] at hhandle
    simp only [Prod.mk.injEq] at hhandle
    obtain ⟨houtcome, hrevision, hexpiry⟩ := hhandle
    cases result with
    | error e => cases houtcome
    | ok outcome =>
      have htaken : Taken Call.step Database.empty (twoRoomCalls ++ [lateCall]) twoRooms lateCall
          (lateCall.run twoRooms) := ⟨twoRoomCalls, [], rfl, Run.of_foldl _ _ _, rfl⟩
      have haccepted : Accepted twoRooms codeOne none (.requestJoin requestTwo guestTwo 5 500) 5 loaded room outcome := by
        refine ⟨hload, nofun, hresult, fun q s at' expiresAt hcommand => ?_, by decide, ?_, ?_⟩
        · cases hcommand
          decide +kernel
        · rw [hrevision]; decide
        · rw [hexpiry]; decide
      obtain ⟨mutation, db', hcall⟩ := hunrefused _ _ _ _ htaken loaded room outcome haccepted
      have hrefused : (applyRoomCommand codeOne none (.requestJoin requestTwo guestTwo 5 500) 5 twoRooms).1.isOk = false := by
        decide +kernel
      rw [hcall] at hrefused
      cases hrefused

end P2PTransmission
