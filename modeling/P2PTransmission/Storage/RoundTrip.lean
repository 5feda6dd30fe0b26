import P2PTransmission.Storage.Isolation

/-!
# Persisting and loading

A room that a command changed is written row by row and loaded back with three queries. `load_after_commit` says when
this is the identity: exactly if the command did not take the request id of another room, and then for as long as the
calls on other rooms take no request id of this one.
-/

set_option autoImplicit false

namespace P2PTransmission

open Storage
open Room (ownerOne requestOne)

variable {db db' : Database} {room loaded : Room} {now : Nat} {code : RoomCode} {command : RoomCommand}

/-- The command asks for no request whose id is taken by a row of another room. -/
def NoForeign (db : Database) (code : RoomCode) (command : RoomCommand) : Prop :=
  ∀ (q : RequestId) (s : SessionId) (at' expiresAt : Nat) (row : JoinRequestRow),
    command = .requestJoin q s at' expiresAt → ¬ ForeignRequest db code q row

/-! ## What is stored after a command -/

theorem Mutated.keepsMember (h : Mutated db code loaded command room now db') {s : SessionId} {m : Membership}
    (hm : loaded.memberships[s]? = some m) : ∃ m', room.memberships[s]? = some m' := by
  obtain ⟨effected, heffect, rfl⟩ := Room.handle_changed h.handle
  exact heffect.keepsMember hm

theorem Mutated.within (h : Mutated db code loaded command room now db') : Room.Within room := by
  obtain ⟨effected, heffect, rfl⟩ := Room.handle_changed h.handle
  obtain ⟨-, -, -, -, -, hwithin⟩ := loadRoomAt_some.mp h.load
  exact heffect.within hwithin

/-- A loaded room of a history has no request of its owner, so the command leaves it valid. -/
theorem Mutated.verified (hs : Sound db) (h : Mutated db code loaded command room now db') : Room.Verified room := by
  obtain ⟨-, -, -, hstored, hverified, -⟩ := loadRoomAt_some.mp h.load
  obtain ⟨roomRow, hroomRow, hholds⟩ := loadRoomOn_row h.load
  have hnone : Room.NoOwnRequest loaded := by
    refine .inr fun q r hr _ howner => ?_
    obtain ⟨row, hrow, hrequest⟩ := hstored.stored q r hr
    have hne := hs.requestOwner q.value row roomRow hrow (by rw [hrequest.room]; exact hroomRow)
    rw [hrequest.session, hholds.owner, howner] at hne
    exact absurd rfl hne
  have hroom := (hverified.handle hnone command).1
  rwa [h.handle] at hroom

theorem Mutated.storesMembers (h : Mutated db code loaded command room now db') :
    StoresMembers db' room.id.value room.memberships := by
  obtain ⟨-, -, hstored, -⟩ := loadRoomAt_some.mp h.load
  rw [← h.same.id] at hstored
  refine ⟨fun s m hm => ⟨_, h.commit.member hm, MemberRow.write_holds _ _ _⟩, fun session row hrow => ?_⟩
  by_cases hwritten : ∃ (s : SessionId) (m : Membership), session = s.value ∧ room.memberships[s]? = some m
  · exact hwritten
  · rw [h.commit.memberOther fun s m hm he => hwritten ⟨s, m, congrArg MemberKey.sessionId he, hm⟩] at hrow
    obtain ⟨s, m, hs, hm⟩ := hstored.only session row hrow
    obtain ⟨m', hm'⟩ := h.keepsMember hm
    exact ⟨s, m', hs, hm'⟩

theorem Mutated.storesRequests (h : Mutated db code loaded command room now db') (hforeign : NoForeign db code command) :
    StoresRequests db' room.id.value room.joinRequests := by
  obtain ⟨-, -, -, hstored, -⟩ := loadRoomAt_some.mp h.load
  rw [← h.same.id] at hstored
  refine ⟨fun q r hr => ⟨_, h.commit.request hr, ?_⟩, fun id row hrow hroom => ?_⟩
  · cases hold : db.joinRequests[q.value]? with
    | none => exact ⟨rfl, rfl, rfl, rfl⟩
    | some old =>
      cases hl : loaded.joinRequests[q]? with
      | none =>
        -- a new request over a row: the row is another room's
        obtain ⟨at', hcommand, -⟩ := h.newRequest hr hl
        have hne : old.roomId ≠ room.id.value := fun he => by
          obtain ⟨r', hr'⟩ := (h.loaded_iff hold).mpr he
          rw [hl] at hr'
          cases hr'
        exact absurd (h.foreign_iff.mpr ⟨hold, hne⟩) (hforeign q r.sessionId at' r.expiresAt old hcommand)
      | some r' =>
        obtain ⟨row, hrow, hholds⟩ := hstored.stored q r' hl
        rw [hold] at hrow
        cases hrow
        obtain ⟨state, hkept⟩ := h.keepsRequest hl
        rw [hr] at hkept
        cases hkept
        exact ⟨hholds.room, hholds.session, rfl, rfl⟩
  · by_cases hwritten : ∃ (q : RequestId) (r : JoinRequest), id = q.value ∧ room.joinRequests[q]? = some r
    · exact hwritten
    · rw [h.commit.requestOther fun q r hr he => hwritten ⟨q, r, he, hr⟩] at hrow
      obtain ⟨q, r, hq, hr⟩ := hstored.only id row hrow hroom
      obtain ⟨state, hkept⟩ := h.keepsRequest hr
      exact ⟨q, _, hq, hkept⟩

theorem Mutated.storesRow (hs : Sound db') (h : Mutated db code loaded command room now db') :
    ∃ row, db'.selectRoom code.value = some (room.id.value, row) ∧ row.Holds room := by
  obtain ⟨-, hcode, -⟩ := loadRoomAt_some.mp h.load
  obtain ⟨old, hold, hholds⟩ := loadRoomOn_row h.load
  rw [← h.same.id] at hold
  have hrow := h.commit.roomRow.mpr ⟨old, hold, rfl⟩
  rw [if_pos rfl] at hrow
  have hselect := Database.selectRoom_of_unique hs.codeUnique hrow
  have htext : (RoomRow.updated room now old).code = code.value := by
    rw [← hcode]
    exact hholds.code
  rw [htext] at hselect
  refine ⟨_, hselect, ?_, ?_, rfl, rfl, rfl⟩
  · rw [htext, h.same.code, hcode]
  · rw [h.same.owner]
    exact hholds.owner

/-- **Persisting and loading one command.** -/
theorem Mutated.load_iff (hs : Sound db) (hs' : Sound db') (h : Mutated db code loaded command room now db') :
    loadRoomOn db' code = .ok (some room) ↔ NoForeign db code command := by
  constructor
  · intro hload q s at' expiresAt row hcommand hforeign
    obtain ⟨hrow, hne⟩ := h.foreign_iff.mp hforeign
    obtain ⟨-, -, -, hstored, -⟩ := loadRoomAt_some.mp hload
    obtain ⟨row', hrow', hholds⟩ := hstored.stored q _ (h.requested hcommand).2
    rw [h.overwrites hcommand hrow] at hrow'
    cases hrow'
    exact hne hholds.room
  · intro hforeign
    obtain ⟨-, hcode, -⟩ := loadRoomAt_some.mp h.load
    exact loadRoomAt_some.mpr ⟨h.storesRow hs', h.same.code.trans hcode, h.storesMembers, h.storesRequests hforeign,
      h.verified hs, h.within⟩

/-! ## Calls on other rooms -/

/-- A call that is no command on the room with this code, and takes no request id of another room than its own. -/
def Storage.Call.Apart (code : RoomCode) (db : Database) : Call → Prop
  | .applyRoomCommand other _ command _ => other ≠ code ∧ NoForeign db other command
  | _ => True

theorem insertSession_load (session : Session) (now : Nat) :
    loadRoomOn (insertSession session now db).2 code = loadRoomOn db code := by
  cases hr : insertSession session now db with
  | mk result db' =>
    cases result with
    | error e => rw [transaction_error hr]
    | ok u =>
      have hbody := transaction_ok hr
      obtain ⟨_, -, hbody⟩ := bind_ok.mp hbody
      obtain ⟨_, -, hbody⟩ := bind_ok.mp hbody
      obtain ⟨_, -, hbody⟩ := bind_ok.mp hbody
      obtain ⟨sessions, -, hbody⟩ := bind_ok.mp hbody
      cases hbody
      rfl

/-- A created room is stored beside the rooms that are there. -/
theorem insertRoom_load {createRequestId : RequestId} {created : Room}
    (hempty : ∀ q : RequestId, created.joinRequests[q]? = none) (hload : loadRoomOn db code = .ok (some room)) :
    loadRoomOn (insertRoom created createRequestId now db).2 code = .ok (some room) := by
  cases hr : insertRoom created createRequestId now db with
  | mk result db' =>
    cases result with
    | error e => rw [transaction_error hr]; exact hload
    | ok u =>
      obtain ⟨row, hholds, -, hnone, hfree, hp⟩ := insertRoom_ok hr
      obtain ⟨⟨roomRow, hselect, hroom⟩, hcode, -⟩ := loadRoomAt_some.mp hload
      obtain ⟨hroomRow, hroomCode⟩ := Database.selectRoom_some hselect
      have hid : created.id.value ≠ room.id.value := fun he => by
        rw [he, hroomRow] at hnone
        cases hnone
      have hnew : row.code ≠ code.value := fun he =>
        hfree _ _ hroomRow (by rw [hroomCode, ← he, hholds.code])
      rw [← hload]
      refine loadRoomOn_congr (Database.selectRoom_congr fun id a ha => ?_) fun id a ha => ?_
      · rw [hp.rooms, BTreeMap.getElem?_insert]
        split
        · rename_i he
          subst he
          rw [hnone]
          constructor
          · rintro h; cases h; exact absurd ha hnew
          · intro h; cases h
        · exact Iff.rfl
      · rw [hselect] at ha
        cases ha
        constructor
        · refine Database.selectMembers_congr fun key hkey => hp.memberOther key fun s m _ he => ?_
          rw [he] at hkey
          exact hid hkey
        · refine Database.selectJoinRequests_congr fun id request _ => ?_
          rw [hp.requestOther id fun q r hr => by rw [hempty q] at hr; cases hr]

theorem Storage.Call.apart_load {call : Call} (hapart : call.Apart code db) (hload : loadRoomOn db code = .ok (some room)) :
    loadRoomOn (call.run db) code = .ok (some room) := by
  cases call with
  | insertSession session now => exact (insertSession_load session now).trans hload
  | insertRoom id other owner createdAt expiresAt createRequestId now =>
    simp only [Call.run]
    split
    · rename_i hcreate
      exact insertRoom_load (create_requests hcreate) hload
    · exact hload
  | applyRoomCommand other expected command now =>
    obtain ⟨hother, hforeign⟩ := hapart
    simp only [Call.run]
    cases hr : Storage.applyRoomCommand other expected command now db with
    | mk result db' =>
      cases result with
      | error e => rw [transaction_error hr]; exact hload
      | ok mutation =>
        rcases applyRoomCommand_mutated hr with ⟨-, rfl, -⟩ | ⟨-, loaded, hm⟩
        · exact hload
        · have hisolated := hm.isolated fun q s at' expiresAt row hcommand hrow =>
            absurd hrow (hforeign q s at' expiresAt row hcommand)
          exact (hisolated.load code (Ne.symm hother)).trans hload

/-- **Persist then load is the identity**, exactly if the command takes no request id of another room; and then the room
loads to the same value until the next command on it, as long as no call takes a request id of another room. -/
theorem load_after_commit {expected : Option Nat} {mutation : RoomMutation} (hreach : Reachable db)
    (h : applyRoomCommand code expected command now db = (.ok mutation, db')) (hchanged : mutation.outcome.changed = true) :
    (loadRoomOn db' code = .ok (some mutation.room) ↔ NoForeign db code command) ∧
      (NoForeign db code command → ∀ (calls : List Call) (db'' : Database),
        Run (guarded Call.step fun db call => call.Apart code db) db' calls db'' →
        loadRoomOn db'' code = .ok (some mutation.room)) := by
  have hs' : Sound db' := by
    have hsound : Sound (applyRoomCommand code expected command now db).2 :=
      applyRoomCommand_sound hreach.sound expected
    rwa [h] at hsound
  rcases applyRoomCommand_mutated h with ⟨houtcome, -⟩ | ⟨-, loaded, hm⟩
  · rw [houtcome] at hchanged
    cases hchanged
  have hiff := hm.load_iff hreach.sound hs'
  refine ⟨hiff, fun hforeign calls db'' hrun => ?_⟩
  refine hrun.invariant (I := fun d => loadRoomOn d code = .ok (some mutation.room)) ?_ (hiff.mpr hforeign)
  rintro d call _ hload ⟨rfl, hapart⟩
  exact call.apart_load hapart hload

/-- The request that took the id of another room's is in the room that the call returned, but not in the stored one. -/
theorem load_after_commit_breaks : ∃ (mutation : RoomMutation) (db' : Database), Reachable twoRooms ∧
    applyRoomCommand codeTwo none (.requestJoin requestOne guestTwo 20 600) 20 twoRooms =
      (.ok mutation, db') ∧
    mutation.outcome.changed = true ∧ loadRoomOn db' codeTwo ≠ .ok (some mutation.room) := by
  let result := applyRoomCommand codeTwo none (.requestJoin requestOne guestTwo 20 600) 20 twoRooms
  obtain ⟨mutation, hcall⟩ := ok_of_isOk result (by decide +kernel)
  have hmutation : result.1.toOption = some mutation := by rw [hcall]; rfl
  have hchanged : result.1.toOption.map (fun m => m.outcome.changed) = some true := by decide +kernel
  have hreturned : result.1.toOption.map (fun m => m.room.joinRequestState requestOne) = some (some .pending) := by
    decide +kernel
  rw [hmutation] at hchanged hreturned
  refine ⟨mutation, result.2, twoRooms_reachable, hcall, Option.some.inj hchanged, fun hload => ?_⟩
  have hstored : (loadRoomOn result.2 codeTwo).toOption.map
      (fun r => r.map fun room => room.joinRequestState requestOne) = some (some none) := by decide +kernel
  rw [hload] at hstored
  have hnone : mutation.room.joinRequestState requestOne = none :=
    Option.some.inj (Option.some.inj hstored)
  have hpending : mutation.room.joinRequestState requestOne = some .pending := Option.some.inj hreturned
  rw [hnone] at hpending
  cases hpending

/-- A request with an id of its own is stored and loaded. -/
theorem load_after_commit_fresh : ∃ (mutation : RoomMutation) (db' : Database),
    applyRoomCommand codeTwo none (.requestJoin requestTwo guestTwo 20 600) 20 twoRooms =
      (.ok mutation, db') ∧ loadRoomOn db' codeTwo = .ok (some mutation.room) := by
  let result := applyRoomCommand codeTwo none (.requestJoin requestTwo guestTwo 20 600) 20 twoRooms
  obtain ⟨mutation, hcall⟩ := ok_of_isOk result (by decide +kernel)
  have hchanged : result.1.toOption.map (fun m => m.outcome.changed) = some true := by decide +kernel
  have hmutation : result.1.toOption = some mutation := by rw [hcall]; rfl
  rw [hmutation] at hchanged
  have hforeign : NoForeign twoRooms codeTwo (.requestJoin requestTwo guestTwo 20 600) := by
    rintro q s at' expiresAt row hcommand ⟨hrow, -⟩
    cases hcommand
    have hnone : twoRooms.joinRequests["request_2"]? = none := by decide +kernel
    exact absurd (hnone.symm.trans hrow) (by simp)
  exact ⟨mutation, result.2, hcall,
    (load_after_commit twoRooms_reachable hcall (Option.some.inj hchanged)).1.mpr hforeign⟩

end P2PTransmission
