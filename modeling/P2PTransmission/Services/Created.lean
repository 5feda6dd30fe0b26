import P2PTransmission.Services.CreateRoom
import P2PTransmission.Storage.Lawful

/-!
# Created rooms

Room rows are never removed and keep their code, their owner and their create request (`KeepsRooms`), so what a call of
`create_room` has seen stays true while the others run. From this, every answer names the one room that is stored for the
request, and a call gives up only after each of its insertions met the id or the code of another room
(`create_room_idempotent`).
-/

set_option autoImplicit false

namespace P2PTransmission

open Storage Database

variable {db db' : Database} {room : Room} {now : Nat} {owner request : String}

/-! ## Rows that stay -/

/-- The room rows are there afterwards, with what the unique indexes look at. -/
def KeepsRooms (db db' : Database) : Prop :=
  ∀ (id : String) (row : RoomRow), db.rooms[id]? = some row → ∃ row' : RoomRow, db'.rooms[id]? = some row' ∧
    row'.code = row.code ∧ row'.ownerSessionId = row.ownerSessionId ∧ row'.createRequestId = row.createRequestId

theorem KeepsRooms.refl (db : Database) : KeepsRooms db db := fun _ row hrow => ⟨row, hrow, rfl, rfl, rfl⟩

/-- The code of every room row is one that `RoomCode.parse` reads back. -/
def Coded (db : Database) : Prop :=
  ∀ (id : String) (row : RoomRow), db.rooms[id]? = some row → ∃ code : RoomCode, row.code = code.value

theorem insertSession_rooms (session : Session) (now : Nat) (db : Database) :
    (insertSession session now db).2.rooms = db.rooms := by
  cases hr : insertSession session now db with
  | mk result db' =>
    cases result with
    | error e => exact congrArg Database.rooms (transaction_error hr)
    | ok u =>
      have hbody := transaction_ok hr
      obtain ⟨_, -, hbody⟩ := bind_ok.mp hbody
      obtain ⟨_, -, hbody⟩ := bind_ok.mp hbody
      obtain ⟨_, -, hbody⟩ := bind_ok.mp hbody
      obtain ⟨sessions, -, hbody⟩ := bind_ok.mp hbody
      cases hbody
      rfl

/-- A successful insertion adds one row. -/
theorem insertRoom_rooms {createRequestId : RequestId} (h : insertRoom room createRequestId now db = (.ok (), db')) :
    ∃ row : RoomRow, row.Holds room ∧ row.createRequestId = createRequestId.value ∧ db.rooms[room.id.value]? = none ∧
      db'.rooms = db.rooms.insert room.id.value row := by
  obtain ⟨row, hholds, hrequest, hnone, -, hp⟩ := insertRoom_ok h
  exact ⟨row, hholds, hrequest, hnone, hp.rooms⟩

theorem insertRoom_keeps (room : Room) (createRequestId : RequestId) (now : Nat) (db : Database) :
    KeepsRooms db (insertRoom room createRequestId now db).2 ∧
      (Coded db → Coded (insertRoom room createRequestId now db).2) := by
  cases hr : insertRoom room createRequestId now db with
  | mk result db' =>
    cases result with
    | error e =>
      rw [transaction_error hr]
      exact ⟨.refl db, id⟩
    | ok u =>
      obtain ⟨row, hholds, -, hnone, hrooms⟩ := insertRoom_rooms hr
      constructor
      · intro id old hold
        have hid : room.id.value ≠ id := by
          rintro rfl
          rw [hnone] at hold
          cases hold
        exact ⟨old, by rw [hrooms, BTreeMap.getElem?_insert, if_neg hid, hold], rfl, rfl, rfl⟩
      · intro hcoded id other hother
        rw [hrooms, BTreeMap.getElem?_insert] at hother
        split at hother
        · cases hother
          exact ⟨room.code, hholds.code⟩
        · exact hcoded id other hother

theorem applyRoomCommand_keeps (code : RoomCode) (expected : Option Nat) (command : RoomCommand) (now : Nat)
    (db : Database) : KeepsRooms db (applyRoomCommand code expected command now db).2 ∧
      (Coded db → Coded (applyRoomCommand code expected command now db).2) := by
  cases hr : applyRoomCommand code expected command now db with
  | mk result db' =>
    cases result with
    | error e =>
      rw [transaction_error hr]
      exact ⟨.refl db, id⟩
    | ok mutation =>
      obtain ⟨loaded, -, -, -, ⟨-, rfl⟩ | ⟨-, hcommit⟩⟩ := applyRoomCommand_ok hr
      · exact ⟨.refl _, id⟩
      · constructor
        · intro id old hold
          exact hcommit.keepsRoomRow hold
        · intro hcoded id row hrow
          obtain ⟨old, hold, rfl⟩ := hcommit.roomRow.mp hrow
          obtain ⟨code, hcode⟩ := hcoded id old hold
          refine ⟨code, ?_⟩
          split <;> exact hcode

theorem Storage.Call.keeps (call : Call) (db : Database) :
    KeepsRooms db (call.run db) ∧ (Coded db → Coded (call.run db)) := by
  cases call with
  | insertSession session now =>
    have hrooms := insertSession_rooms session now db
    constructor
    · intro id row hrow
      exact ⟨row, by rw [Call.run, hrooms]; exact hrow, rfl, rfl, rfl⟩
    · intro hcoded id row hrow
      rw [Call.run, hrooms] at hrow
      exact hcoded id row hrow
  | insertRoom id code owner createdAt expiresAt createRequestId now =>
    simp only [Call.run]
    split
    · exact insertRoom_keeps _ createRequestId now db
    · exact ⟨.refl db, fun h => h⟩
  | applyRoomCommand code expected command now => exact applyRoomCommand_keeps code expected command now db

/-! ## The room of a request -/

/-- A room is stored for the request. -/
def Created (db : Database) (owner request : String) : Prop :=
  ∃ (id : String) (row : RoomRow), db.rooms[id]? = some row ∧ row.ownerSessionId = owner ∧ row.createRequestId = request

/-- The room that is stored for the request has this code. -/
def CreatedCode (db : Database) (owner request code : String) : Prop :=
  ∃ (id : String) (row : RoomRow), db.rooms[id]? = some row ∧ row.code = code ∧ row.ownerSessionId = owner ∧
    row.createRequestId = request

/-- The room that is stored for the request has this id and this code. -/
def Names (db : Database) (owner request id code : String) : Prop :=
  ∃ row : RoomRow, db.rooms[id]? = some row ∧ row.code = code ∧ row.ownerSessionId = owner ∧
    row.createRequestId = request

theorem KeepsRooms.created (h : KeepsRooms db db') (hcreated : Created db owner request) : Created db' owner request := by
  obtain ⟨id, row, hrow, howner, hrequest⟩ := hcreated
  obtain ⟨row', hrow', -, howner', hrequest'⟩ := h id row hrow
  exact ⟨id, row', hrow', howner'.trans howner, hrequest'.trans hrequest⟩

theorem KeepsRooms.names (h : KeepsRooms db db') {id code : String} (hnames : Names db owner request id code) :
    Names db' owner request id code := by
  obtain ⟨row, hrow, hcode, howner, hrequest⟩ := hnames
  obtain ⟨row', hrow', hcode', howner', hrequest'⟩ := h id row hrow
  exact ⟨row', hrow', hcode'.trans hcode, howner'.trans howner, hrequest'.trans hrequest⟩

theorem KeepsRooms.createdCode (h : KeepsRooms db db') {code : String} (hcode : CreatedCode db owner request code) :
    CreatedCode db' owner request code := by
  obtain ⟨id, hnames⟩ := hcode
  exact ⟨id, h.names hnames⟩

/-- The unique indexes leave one room for each request. -/
theorem Names.unique (h : Lawful db) {id id' code code' : String} (hn : Names db owner request id code)
    (hn' : Names db owner request id' code') : id = id' ∧ code = code' := by
  obtain ⟨row, hrow, hcode, howner, hrequest⟩ := hn
  obtain ⟨row', hrow', hcode', howner', hrequest'⟩ := hn'
  have hid : id = id' := h.rooms.unique id id' row row' hrow hrow'
    (.inr ⟨howner.trans howner'.symm, hrequest.trans hrequest'.symm⟩)
  subst hid
  rw [hrow] at hrow'
  cases hrow'
  exact ⟨rfl, hcode.symm.trans hcode'⟩

theorem selectCreated_some {code : String} (h : db.selectCreated owner request = some code) :
    CreatedCode db owner request code := by
  unfold selectCreated at h
  obtain ⟨⟨id, row⟩, hhead, rfl⟩ := Option.map_eq_some_iff.mp h
  have hmem := List.mem_of_mem_head? hhead
  rw [BTreeMap.mem_toList, getElem?_where, decide_eq_true_eq] at hmem
  exact ⟨id, row, hmem.1, rfl, hmem.2.1, hmem.2.2⟩

theorem selectCreated_none (h : db.selectCreated owner request = none) : ¬ Created db owner request := by
  rintro ⟨id, row, hrow, howner, hrequest⟩
  unfold selectCreated at h
  rw [Option.map_eq_none_iff, List.head?_eq_none_iff] at h
  have hmem : (id, row) ∈ (db.rooms.filter fun _ row =>
      row.ownerSessionId = owner ∧ row.createRequestId = request).toList := by
    rw [BTreeMap.mem_toList, getElem?_where, decide_eq_true_eq]
    exact ⟨hrow, howner, hrequest⟩
  rw [h] at hmem
  cases hmem

/-! ## Conflicts -/

/-- A room with the id or the code of the attempt is stored. -/
def Attempt.Taken (attempt : Attempt) : Prop :=
  (∃ row : RoomRow, attempt.database.rooms[attempt.id.value]? = some row) ∨
    ∃ (id : String) (row : RoomRow), attempt.database.rooms[id]? = some row ∧ row.code = attempt.code.value

/-- The insertion met the id or the code of another room, and no room of its own request. -/
def Attempt.Collided (attempt : Attempt) (owner request : String) : Prop :=
  attempt.Taken ∧ ¬ Created attempt.database owner request

theorem mapWrite_unique {α : Type} {x : Except ConstraintError α} (h : mapWrite x = .error .uniqueConflict) :
    x = .error .unique := by
  cases x with
  | ok a => cases h
  | error e =>
    cases e with
    | unique => rfl
    | check | foreignKey => cases h

theorem sqlInteger_ne_unique (n : Nat) : sqlInteger n ≠ .error .uniqueConflict := by
  intro h
  unfold sqlInteger at h
  split at h <;> cases h

/-- The members of a room have no unique index besides their key, which is the conflict target. -/
theorem persistMembership_ne_unique (room : Room) (now : Nat) (db : Database) (membership : RoomMembershipSnapshot) :
    persistMembership room now db membership ≠ .error .uniqueConflict := by
  intro h
  unfold persistMembership at h
  rcases bind_error h with h | ⟨_, -, h⟩
  · exact sqlInteger_ne_unique now h
  rcases bind_error h with h | ⟨_, -, h⟩
  · exact sqlInteger_ne_unique now h
  rcases bind_error h with h | ⟨_, -, h⟩
  · have hclash := Table.upsert_unique (mapWrite_unique h)
    cases hclash
  · cases h

/-- What a conflict of an insertion means. -/
theorem insertRoom_conflict {createRequestId : RequestId} (hempty : ∀ q : RequestId, room.joinRequests[q]? = none)
    (h : insertRoom room createRequestId now db = (.error .uniqueConflict, db')) :
    (⟨room.id, room.code, db⟩ : Attempt).Taken ∨ Created db room.owner.value createRequestId.value := by
  have hbody : insertRoomOn room createRequestId now db = .error .uniqueConflict := by
    unfold insertRoom transaction at h
    split at h
    · cases h
    · rename_i hbody
      cases h
      exact hbody
  unfold insertRoomOn at hbody
  rcases bind_error hbody with hbody | ⟨_, -, hbody⟩
  · exact absurd hbody (sqlInteger_ne_unique _)
  rcases bind_error hbody with hbody | ⟨_, -, hbody⟩
  · exact absurd hbody (sqlInteger_ne_unique _)
  rcases bind_error hbody with hbody | ⟨_, -, hbody⟩
  · exact absurd hbody (sqlInteger_ne_unique _)
  rcases bind_error hbody with hbody | ⟨_, -, hbody⟩
  · exact absurd hbody (sqlInteger_ne_unique _)
  rcases bind_error hbody with hbody | ⟨rooms, -, hbody⟩
  · rcases Table.insert_unique (mapWrite_unique hbody) with ⟨old, hold⟩ | hclash
    · exact .inl (.inl ⟨old, hold⟩)
    · obtain ⟨id, row, -, hrow, hcode | ⟨howner, hrequest⟩⟩ := (roomConstraints_forbids db _ _ _).mp hclash
      · exact .inl (.inr ⟨id, row, hrow, hcode.symm⟩)
      · exact .inr ⟨id, row, hrow, howner.symm, hrequest.symm⟩
  -- the children of a room that was just created are its owner alone
  rcases bind_error hbody with hbody | ⟨_, -, hbody⟩
  · rcases bind_error hbody with hmembers | ⟨_, -, hrequests⟩
    · obtain ⟨_, membership, -, hstep⟩ := foldlM_error hmembers
      exact absurd hstep (persistMembership_ne_unique _ _ _ _)
    · obtain ⟨_, snapshot, hmem, -⟩ := foldlM_error hrequests
      rw [mem_joinRequestSnapshots, hempty] at hmem
      cases hmem
  · cases hbody

/-! ## The invariant of a call -/

namespace CreateCall

variable {call : CreateCall}

/-- What a call knows at its next statement. -/
def Knows (db : Database) (call : CreateCall) : CreatePoint → Prop
  | .selectCode => ∀ attempt ∈ call.met, attempt.Collided call.owner.id.value call.requestId.value ∨
      Created db call.owner.id.value call.requestId.value
  | .selectRoom code => CreatedCode db call.owner.id.value call.requestId.value code.value
  | .selectMembers decoded | .selectRequests decoded _ =>
    Names db call.owner.id.value call.requestId.value decoded.id.value decoded.code.value
  | .insert => call.attempts < ROOM_CODE_ATTEMPTS ∧
      ∀ attempt ∈ call.met, attempt.Collided call.owner.id.value call.requestId.value
  | .returned (.ok response) =>
    Names db call.owner.id.value call.requestId.value response.roomId.value response.roomCode.value
  | .returned (.error .roomCodeExhausted) => call.attempts = ROOM_CODE_ATTEMPTS ∧
      ∀ attempt ∈ call.met, attempt.Collided call.owner.id.value call.requestId.value
  | .returned (.error _) => True

structure Sound (db : Database) (call : CreateCall) : Prop where
  counted : call.met.length = call.attempts
  bounded : call.attempts ≤ ROOM_CODE_ATTEMPTS
  knows : call.Knows db call.point

/-- What a call knows stays true while the others run. -/
theorem Sound.keeps (h : call.Sound db) (hkeeps : KeepsRooms db db') : call.Sound db' := by
  refine ⟨h.counted, h.bounded, ?_⟩
  have hknows := h.knows
  cases hpoint : call.point with
  | selectCode =>
    rw [hpoint] at hknows
    intro attempt hmem
    exact (hknows attempt hmem).imp_right hkeeps.created
  | selectRoom code => rw [hpoint] at hknows; exact hkeeps.createdCode hknows
  | selectMembers decoded => rw [hpoint] at hknows; exact hkeeps.names hknows
  | selectRequests decoded memberships => rw [hpoint] at hknows; exact hkeeps.names hknows
  | insert => rw [hpoint] at hknows; exact hknows
  | returned result =>
    rw [hpoint] at hknows
    cases result with
    | ok response => exact hkeeps.names hknows
    | error error => cases error <;> exact hknows

theorem sound_goto (h : call.Sound db) {point : CreatePoint} (hknows : call.Knows db point) :
    (call.goto point).Sound db := by
  refine ⟨h.counted, h.bounded, ?_⟩
  cases point with
  | returned result =>
    cases result with
    | ok response => exact hknows
    | error error => cases error <;> exact hknows
  | selectCode | selectRoom | selectMembers | selectRequests | insert => exact hknows

/-- A call that fails for a reason of its own. -/
theorem sound_fail (h : call.Sound db) {error : CreateRoomError} (herror : error ≠ .roomCodeExhausted) :
    (call.fail error).Sound db := by
  refine sound_goto h ?_
  cases error with
  | roomCodeExhausted => exact absurd rfl herror
  | clock | session | id | time | room | storage => trivial

/-- Without a room for the request, every insertion so far met another room. -/
theorem sound_attempt (h : call.Sound db)
    (hmet : ∀ attempt ∈ call.met, attempt.Collided call.owner.id.value call.requestId.value) :
    call.attempt.Sound db := by
  unfold attempt
  split
  · rename_i hattempts
    exact sound_goto h ⟨hattempts, hmet⟩
  · rename_i hattempts
    have := h.bounded
    exact sound_goto h ⟨by omega, hmet⟩

theorem sound_selectCode (h : call.Sound db) (hcoded : Coded db) (hpoint : call.point = .selectCode) :
    (call.selectCode db).Sound db := by
  have hknows := h.knows
  rw [hpoint] at hknows
  unfold selectCode
  split
  · rename_i hnone
    refine sound_attempt h fun attempt hmem => ?_
    rcases hknows attempt hmem with hcollided | hcreated
    · exact hcollided
    · exact absurd hcreated (selectCreated_none hnone)
  · rename_i text hsome
    obtain ⟨id, row, hrow, hcode, howner, hrequest⟩ := selectCreated_some hsome
    obtain ⟨code, hvalue⟩ := hcoded id row hrow
    have htext : text = code.value := hcode.symm.trans hvalue
    rw [htext, decodeRoomCode_value]
    exact sound_goto h ⟨id, row, hrow, hvalue, howner, hrequest⟩

theorem sound_selectRoom (h : call.Sound db) (hlawful : Lawful db) {code : RoomCode}
    (hpoint : call.point = .selectRoom code) : (call.selectRoom db code).Sound db := by
  have hknows := h.knows
  rw [hpoint] at hknows
  obtain ⟨id, row, hrow, hcode, howner, hrequest⟩ := hknows
  have hunique : db.CodeUnique := fun a b ra rb ha hb hsame => hlawful.rooms.unique a b ra rb ha hb (.inl hsame)
  have hselect := selectRoom_of_unique hunique hrow
  rw [hcode] at hselect
  unfold selectRoom
  rw [hselect]
  dsimp only
  split
  · exact sound_fail h (by simp)
  · rename_i decoded hdecode
    obtain ⟨hid, hdecoded, -⟩ := (decodeRoom_ok hcode).mp hdecode
    refine sound_goto h ⟨row, ?_, ?_, howner, hrequest⟩
    · rw [← hid]; exact hrow
    · rw [hdecoded]; exact hcode

theorem sound_selectMembers (h : call.Sound db) {decoded : DecodedRoom} (hpoint : call.point = .selectMembers decoded) :
    (call.selectMembers db decoded).Sound db := by
  have hknows := h.knows
  rw [hpoint] at hknows
  unfold selectMembers
  split
  · exact sound_fail h (by simp)
  · exact sound_goto h hknows

theorem sound_selectRequests (h : call.Sound db) {decoded : DecodedRoom} {memberships : List RoomMembershipSnapshot}
    (hpoint : call.point = .selectRequests decoded memberships) :
    (call.selectRequests db decoded memberships).Sound db := by
  have hknows := h.knows
  rw [hpoint] at hknows
  unfold selectRequests
  split
  · exact sound_fail h (by simp)
  split
  · exact sound_fail h (by simp)
  · rename_i existing hrestore
    obtain ⟨-, -, -, hid, hcode, -⟩ := Room.restore_iff.mp hrestore
    refine sound_goto h ?_
    show Names db _ _ existing.id.value existing.code.value
    rw [hid, hcode]
    exact hknows

theorem sound_insertRoom (h : call.Sound db) (hpoint : call.point = .insert) (howner : room.owner = call.owner.id)
    (hempty : ∀ q : RequestId, room.joinRequests[q]? = none) :
    (call.insertRoom db room).2.Sound (call.insertRoom db room).1 := by
  have hkeeps := (insertRoom_keeps room call.requestId call.now db).1
  have hknows := h.knows
  rw [hpoint] at hknows
  obtain ⟨hattempts, hmet⟩ := hknows
  unfold insertRoom
  split
  · rename_i db' hinsert
    obtain ⟨row, hholds, hrequest, -, hrooms⟩ := insertRoom_rooms hinsert
    rw [hinsert] at hkeeps
    refine sound_goto (h.keeps hkeeps) ⟨row, ?_, hholds.code, by rw [hholds.owner, howner], hrequest⟩
    rw [hrooms, BTreeMap.getElem?_insert]
    exact if_pos rfl
  · rename_i db' hinsert
    have hsame : db' = db := transaction_error hinsert
    refine ⟨by simp [h.counted], hattempts, ?_⟩
    intro attempt hmem
    show attempt.Collided call.owner.id.value call.requestId.value ∨ Created db' call.owner.id.value call.requestId.value
    rw [hsame]
    rcases List.mem_cons.mp hmem with rfl | hmem
    · by_cases hcreated : Created db call.owner.id.value call.requestId.value
      · exact .inr hcreated
      · have hconflict := insertRoom_conflict hempty hinsert
        rw [howner] at hconflict
        exact .inl ⟨hconflict.resolve_right hcreated, hcreated⟩
    · exact .inl (hmet attempt hmem)
  · rename_i error db' _ hinsert
    rw [hinsert] at hkeeps
    exact sound_fail (h.keeps hkeeps) (by simp)

theorem sound_insert {roomTtl : Nat} {choice : CreateChoice} (h : call.Sound db) (hpoint : call.point = .insert) :
    (call.insert roomTtl choice db).2.Sound (call.insert roomTtl choice db).1 := by
  unfold insert
  split
  · exact sound_fail h (by simp)
  split
  · exact sound_fail h (by simp)
  · rename_i created _ hcreate
    split
    · exact sound_fail h (by simp)
    · refine sound_insertRoom h hpoint ?_ (create_requests hcreate)
      unfold Room.create at hcreate
      split at hcreate
      · cases hcreate
      · cases hcreate
        rfl

end CreateCall

/-! ## Whole runs -/

namespace Creation

variable {world world' : Creation}

structure Sound (world : Creation) : Prop where
  lawful : Lawful world.db
  coded : Coded world.db
  calls : ∀ (n : Nat) (call : CreateCall), world.calls[n]? = some (.ok call) → call.Sound world.db

/-- A statement of a call keeps the schema, the codes and the room rows. -/
theorem step_database {call call' : CreateCall} {roomTtl : Nat} {choice : CreateChoice}
    (h : call.step roomTtl choice db = some (db', call')) :
    KeepsRooms db db' ∧ (Coded db → Coded db') ∧ (Lawful db → Lawful db') := by
  unfold CreateCall.step at h
  split at h
  · cases h
  · have hinsert : call.insert roomTtl choice db = (db', call') := Option.some.inj h
    unfold CreateCall.insert at hinsert
    split at hinsert
    · cases hinsert
      exact ⟨.refl _, id, id⟩
    split at hinsert
    · cases hinsert
      exact ⟨.refl _, id, id⟩
    split at hinsert
    · cases hinsert
      exact ⟨.refl _, id, id⟩
    rename_i created _ _ _
    have hkeeps := insertRoom_keeps created call.requestId call.now db
    have hlawful : Lawful db → Lawful (Storage.insertRoom created call.requestId call.now db).2 :=
      fun h => insertRoom_lawful h created call.requestId call.now
    have hdb : db' = (Storage.insertRoom created call.requestId call.now db).2 := by
      unfold CreateCall.insertRoom at hinsert
      split at hinsert <;> rename_i hresult <;> cases hinsert <;> rw [hresult]
    rw [hdb]
    exact ⟨hkeeps.1, hkeeps.2, hlawful⟩
  all_goals
    cases h
    exact ⟨.refl _, id, id⟩

theorem step_sound {call call' : CreateCall} {roomTtl : Nat} {choice : CreateChoice} (hlawful : Lawful db)
    (hcoded : Coded db) (hsound : call.Sound db) (h : call.step roomTtl choice db = some (db', call')) :
    call'.Sound db' := by
  unfold CreateCall.step at h
  have hfault : (call.fail (.storage .database)).Sound db := CreateCall.sound_fail hsound (by simp)
  split at h
  · cases h
  · rename_i hpoint
    have hinsert : call.insert roomTtl choice db = (db', call') := Option.some.inj h
    have hsound' : (call.insert roomTtl choice db).2.Sound (call.insert roomTtl choice db).1 :=
      CreateCall.sound_insert hsound hpoint
    rwa [hinsert] at hsound'
  · rename_i hpoint
    cases h
    split
    · exact hfault
    · exact CreateCall.sound_selectCode hsound hcoded hpoint
  · rename_i code hpoint
    cases h
    split
    · exact hfault
    · exact CreateCall.sound_selectRoom hsound hlawful hpoint
  · rename_i decoded hpoint
    cases h
    split
    · exact hfault
    · exact CreateCall.sound_selectMembers hsound hpoint
  · rename_i decoded memberships hpoint
    cases h
    split
    · exact hfault
    · exact CreateCall.sound_selectRequests hsound hpoint

theorem start_sound {owner : Session} {requestId : String} {now : Option Nat} {call : CreateCall}
    (h : CreateCall.start owner requestId now = .ok call) : call.Sound db := by
  unfold CreateCall.start at h
  split at h
  · cases h
  split at h
  · cases h
  split at h
  · cases h
  · cases h
    exact ⟨rfl, Nat.zero_le _, fun _ hmem => absurd hmem List.not_mem_nil⟩

/-- **Every event keeps what the calls know.** -/
theorem Sound.step (h : world.Sound) {event : Event} (hstep : Step world event world') : world'.Sound := by
  have hstep : world.step event = some world' := hstep
  cases event with
  | createRoom n owner requestId now =>
    simp only [Creation.step] at hstep
    split at hstep
    · cases hstep
    · cases hstep
      refine ⟨h.lawful, h.coded, fun m call hm => ?_⟩
      rw [BTreeMap.getElem?_insert] at hm
      split at hm
      · exact start_sound (Option.some.inj hm)
      · exact h.calls m call hm
  | run n choice =>
    simp only [Creation.step] at hstep
    split at hstep
    · rename_i call hcall
      obtain ⟨⟨db', call'⟩, hrun, rfl⟩ := Option.map_eq_some_iff.mp hstep
      obtain ⟨hkeeps, hcoded, hlawful⟩ := step_database hrun
      refine ⟨hlawful h.lawful, hcoded h.coded, fun m other hm => ?_⟩
      rw [BTreeMap.getElem?_insert] at hm
      split at hm
      · cases hm
        exact step_sound h.lawful h.coded (h.calls n call hcall) hrun
      · exact (h.calls m other hm).keeps hkeeps
    · cases hstep
  | storage call =>
    cases hstep
    obtain ⟨hkeeps, hcoded⟩ := call.keeps world.db
    exact ⟨h.lawful.call call, hcoded h.coded, fun m other hm => (h.calls m other hm).keeps hkeeps⟩

theorem run_sound {roomTtl : Nat} {events : List Event} (hrun : Run Step (initial roomTtl) events world) :
    world.Sound := by
  refine hrun.invariant (fun _ _ _ h hstep => h.step hstep) ⟨.empty, ?_, ?_⟩
  · intro id row hrow
    exact absurd (hrow.symm.trans Std.ExtTreeMap.getElem?_empty) (by simp)
  · intro n call hcall
    exact absurd (hcall.symm.trans Std.ExtTreeMap.getElem?_empty) (by simp)

/-- What is promised of the calls of `create_room` and of the rooms that they store. -/
structure Idempotent (world : Creation) : Prop where
  /-- Calls of one owner with one request id answer with one room. -/
  answers : ∀ (m n : Nat) (call call' : CreateCall) (response response' : CreateRoomResponse),
    world.calls[m]? = some (.ok call) → call.point = .returned (.ok response) →
    world.calls[n]? = some (.ok call') → call'.point = .returned (.ok response') →
    call.owner.id = call'.owner.id → call.requestId = call'.requestId →
    response.roomId = response'.roomId ∧ response.roomCode = response'.roomCode
  request : ∀ (id id' : String) (row row' : RoomRow), world.db.rooms[id]? = some row → world.db.rooms[id']? = some row' →
    row.ownerSessionId = row'.ownerSessionId → row.createRequestId = row'.createRequestId → id = id'
  code : ∀ (id id' : String) (row row' : RoomRow), world.db.rooms[id]? = some row → world.db.rooms[id']? = some row' →
    id ≠ id' → row.code ≠ row'.code
  /-- A call gives up after `ROOM_CODE_ATTEMPTS` insertions, each of which met the id or the code of another room while
  no room of its own request was stored. -/
  exhausted : ∀ (n : Nat) (call : CreateCall), world.calls[n]? = some (.ok call) →
    call.point = .returned (.error .roomCodeExhausted) → call.met.length = ROOM_CODE_ATTEMPTS ∧
      ∀ attempt ∈ call.met, attempt.Collided call.owner.id.value call.requestId.value

/-- **Creating a room is idempotent** in every run of any number of calls, with any other calls on the store between
their statements. -/
theorem create_room_idempotent (roomTtl : Nat) (events : List Event) (hrun : Run Step (initial roomTtl) events world) :
    world.Idempotent := by
  have h := run_sound hrun
  constructor
  · intro m n call call' response response' hm hpoint hn hpoint' howner hrequest
    have hnames := (h.calls m call hm).knows
    have hnames' := (h.calls n call' hn).knows
    rw [hpoint] at hnames
    rw [hpoint'] at hnames'
    have hnames' : Names world.db call'.owner.id.value call'.requestId.value response'.roomId.value
        response'.roomCode.value := hnames'
    rw [← howner, ← hrequest] at hnames'
    obtain ⟨hid, hcode⟩ := Names.unique h.lawful hnames hnames'
    exact ⟨Identifier.ext hid, RoomCode.ext hcode⟩
  · intro id id' row row' hrow hrow' howner hrequest
    exact h.lawful.rooms.unique id id' row row' hrow hrow' (.inr ⟨howner, hrequest⟩)
  · intro id id' row row' hrow hrow' hne hcode
    exact hne (h.lawful.rooms.unique id id' row row' hrow hrow' (.inl hcode))
  · intro n call hn hpoint
    have hsound := h.calls n call hn
    have hknows := hsound.knows
    rw [hpoint] at hknows
    exact ⟨hsound.counted.trans hknows.1, hknows.2⟩

/-! ## Two calls of one request -/

/-- Both calls find nothing, the first stores its room, and the second meets it. -/
def race (owner : Session) (first second : CreateChoice) : List Event :=
  [.storage (.insertSession owner 0), .createRoom 1 owner "create_1" (some 5), .createRoom 2 owner "create_1" (some 5),
    .run 1 first, .run 2 second, .run 1 first, .run 2 second, .run 2 second, .run 2 second, .run 2 second, .run 2 second]

/-- The request of a call and its answer. -/
def answer (world : Creation) (n : Nat) : Option (SessionId × RequestId × CreateRoomResponse) :=
  match world.calls[n]? with
  | some (.ok { owner, requestId, point := .returned (.ok response), .. }) => some (owner.id, requestId, response)
  | _ => none

theorem answer_some {n : Nat} {owner : SessionId} {requestId : RequestId} {response : CreateRoomResponse}
    (h : world.answer n = some (owner, requestId, response)) : ∃ call, world.calls[n]? = some (.ok call) ∧
      call.owner.id = owner ∧ call.requestId = requestId ∧ call.point = .returned (.ok response) := by
  unfold answer at h
  split at h
  · rename_i hcall
    cases h
    exact ⟨_, hcall, rfl, rfl, rfl⟩
  · cases h

theorem create_room_idempotent_race : ∃ (world : Creation) (owner : SessionId) (requestId : RequestId)
    (response response' : CreateRoomResponse),
    world.answer 1 = some (owner, requestId, response) ∧ world.answer 2 = some (owner, requestId, response') ∧
      response.roomId = response'.roomId ∧ response.roomCode = response'.roomCode := by
  obtain ⟨events, hevents⟩ : ∃ events, events = race ⟨.of "owner_1", ⟨"Alice", by decide⟩, 100000, .active⟩
    ⟨.of "room_1", .of "ABC234", false⟩ ⟨.of "room_2", .of "XYZ789", false⟩ := ⟨_, rfl⟩
  have hanswers : (Run.follow step (initial 1000) events).map (fun world => (world.answer 1, world.answer 2)) =
      some (some (.of "owner_1", .of "create_1", ⟨.of "room_1", .of "ABC234", 1, 1005⟩),
        some (.of "owner_1", .of "create_1", ⟨.of "room_1", .of "ABC234", 1, 1005⟩)) := by
    rw [hevents]
    decide +kernel
  obtain ⟨world, hworld, hanswers⟩ := Option.map_eq_some_iff.mp hanswers
  obtain ⟨hfirst, hsecond⟩ := Prod.mk.inj hanswers
  have hidempotent := create_room_idempotent 1000 events (Run.of_follow hworld)
  obtain ⟨call, hcall, howner, hrequest, hpoint⟩ := answer_some hfirst
  obtain ⟨call', hcall', howner', hrequest', hpoint'⟩ := answer_some hsecond
  have hsame := hidempotent.answers 1 2 call call' _ _ hcall hpoint hcall' hpoint' (howner.trans howner'.symm)
    (hrequest.trans hrequest'.symm)
  exact ⟨world, _, _, _, _, hfirst, hsecond, hsame⟩

end Creation

end P2PTransmission
