import P2PTransmission.Domain.Restore
import P2PTransmission.Storage.Store

/-!
# Stored rooms

What the rows of a room say: `RoomRow.Holds`, `StoresMembers` and `StoresRequests` relate them to the parts of a `Room`.
`loadRoomAt_some` says that loading succeeds with a room exactly if the three queries see rows that hold its parts, and
the room passes the checks of `Room.restore`.
-/

set_option autoImplicit false

namespace P2PTransmission

variable {db first second third : Database} {code : RoomCode} {room : Room} {roomId : String}
  {memberships : BTreeMap SessionId Membership} {joinRequests : BTreeMap RequestId JoinRequest}

/-! ## Rows and the values they hold -/

structure RoomRow.Holds (row : RoomRow) (room : Room) : Prop where
  code : row.code = room.code.value
  owner : row.ownerSessionId = room.owner.value
  state : row.state = roomStateText room.state
  revision : row.revision = room.revision
  expiresAt : row.expiresAtMs = room.expiresAt

structure MemberRow.Holds (row : MemberRow) (membership : Membership) : Prop where
  role : row.role = membershipRoleText membership.role
  state : (row.state, row.peerId) = membershipStateParts membership.state

structure JoinRequestRow.Holds (row : JoinRequestRow) (roomId : String) (request : JoinRequest) : Prop where
  room : row.roomId = roomId
  session : row.sessionId = request.sessionId.value
  state : row.state = joinRequestStateText request.state
  expiresAt : row.expiresAtMs = request.expiresAt

/-- The membership rows of a room are these memberships. -/
structure StoresMembers (db : Database) (roomId : String) (memberships : BTreeMap SessionId Membership) : Prop where
  stored : ∀ (s : SessionId) (m : Membership), memberships[s]? = some m →
    ∃ row : MemberRow, db.roomMembers[(⟨roomId, s.value⟩ : MemberKey)]? = some row ∧ row.Holds m
  only : ∀ (session : String) (row : MemberRow), db.roomMembers[(⟨roomId, session⟩ : MemberKey)]? = some row →
    ∃ (s : SessionId) (m : Membership), session = s.value ∧ memberships[s]? = some m

/-- The join requests of a room are these. -/
structure StoresRequests (db : Database) (roomId : String) (joinRequests : BTreeMap RequestId JoinRequest) : Prop where
  stored : ∀ (q : RequestId) (r : JoinRequest), joinRequests[q]? = some r →
    ∃ row : JoinRequestRow, db.joinRequests[q.value]? = some row ∧ row.Holds roomId r
  only : ∀ (id : String) (row : JoinRequestRow), db.joinRequests[id]? = some row → row.roomId = roomId →
    ∃ (q : RequestId) (r : JoinRequest), id = q.value ∧ joinRequests[q]? = some r

/-! ## Decoding one row -/

theorem decodeMembership_ok {e : MemberKey × MemberRow} {snapshot : RoomMembershipSnapshot} :
    decodeMembership e = .ok snapshot ↔ e.1.sessionId = snapshot.sessionId.value ∧
      e.2.Holds { role := snapshot.role, state := snapshot.state } := by
  constructor
  · intro h
    obtain ⟨s, hs, h⟩ := bind_ok.mp h
    obtain ⟨role, hrole, h⟩ := bind_ok.mp h
    obtain ⟨state, hstate, h⟩ := bind_ok.mp h
    cases h
    exact ⟨decodeId_ok.mp hs, (parseMembershipRole_iff _ _).mp hrole, decodeMembershipState_ok.mp hstate⟩
  · rintro ⟨hs, hrole, hstate⟩
    have hs : decodeId "room_members.session_id" "session id" e.1.sessionId = .ok snapshot.sessionId := decodeId_ok.mpr hs
    have hrole := (parseMembershipRole_iff _ _).mpr hrole
    have hstate := decodeMembershipState_ok.mpr hstate
    simp only [decodeMembership, hs, hrole, hstate]
    rfl

theorem decodeJoinRequest_ok {e : String × JoinRequestRow} {snapshot : RoomJoinRequestSnapshot} :
    decodeJoinRequest e = .ok snapshot ↔ e.1 = snapshot.requestId.value ∧
      e.2.sessionId = snapshot.sessionId.value ∧ e.2.state = joinRequestStateText snapshot.state ∧
      e.2.expiresAtMs = snapshot.expiresAt := by
  constructor
  · intro h
    obtain ⟨q, hq, h⟩ := bind_ok.mp h
    obtain ⟨s, hs, h⟩ := bind_ok.mp h
    obtain ⟨state, hstate, h⟩ := bind_ok.mp h
    obtain ⟨expiresAt, hexpiry, h⟩ := bind_ok.mp h
    cases h
    exact ⟨decodeId_ok.mp hq, decodeId_ok.mp hs, (parseJoinRequestState_iff _ _).mp hstate,
      unsignedSqlInteger_ok hexpiry⟩
  · rintro ⟨hq, hs, hstate, hexpiry⟩
    have hq : decodeId "join_requests.id" "request id" e.1 = .ok snapshot.requestId := decodeId_ok.mpr hq
    have hs : decodeId "join_requests.session_id" "session id" e.2.sessionId = .ok snapshot.sessionId :=
      decodeId_ok.mpr hs
    have hstate := (parseJoinRequestState_iff _ _).mpr hstate
    have hexpiry := hexpiry ▸ unsignedSqlInteger_natCast snapshot.expiresAt "join_requests.expires_at_ms"
    simp only [decodeJoinRequest, hq, hs, hstate, hexpiry]
    rfl

theorem decodeRoom_ok {id : String} {row : RoomRow} {decoded : DecodedRoom} (hcode : row.code = code.value) :
    decodeRoom id row = .ok decoded ↔ id = decoded.id.value ∧ decoded.code = code ∧
      row.ownerSessionId = decoded.owner.value ∧ row.state = roomStateText decoded.state ∧
      row.revision = decoded.revision ∧ row.expiresAtMs = decoded.expiresAt := by
  constructor
  · intro h
    obtain ⟨a, ha, h⟩ := bind_ok.mp h
    obtain ⟨c, hc, h⟩ := bind_ok.mp h
    obtain ⟨owner, howner, h⟩ := bind_ok.mp h
    obtain ⟨state, hstate, h⟩ := bind_ok.mp h
    obtain ⟨revision, hrevision, h⟩ := bind_ok.mp h
    obtain ⟨expiresAt, hexpiry, h⟩ := bind_ok.mp h
    cases h
    rw [hcode, decodeRoomCode_value] at hc
    exact ⟨decodeId_ok.mp ha, (Except.ok.inj hc).symm, decodeId_ok.mp howner, (parseRoomState_iff _ _).mp hstate,
      unsignedSqlInteger_ok hrevision, unsignedSqlInteger_ok hexpiry⟩
  · obtain ⟨a, c, owner, state, revision, expiresAt⟩ := decoded
    rintro ⟨ha, rfl, howner, hstate, hrevision, hexpiry⟩
    simp only at ha hcode howner hstate hrevision hexpiry
    have ha : decodeId "rooms.id" "room id" id = .ok a := decodeId_ok.mpr ha
    have hcode := hcode ▸ decodeRoomCode_value "rooms.code" c
    have howner : decodeId "rooms.owner_session_id" "session id" row.ownerSessionId = .ok owner := decodeId_ok.mpr howner
    have hstate := (parseRoomState_iff _ _).mpr hstate
    have hrevision := hrevision ▸ unsignedSqlInteger_natCast revision "rooms.revision"
    have hexpiry := hexpiry ▸ unsignedSqlInteger_natCast expiresAt "rooms.expires_at_ms"
    simp only [decodeRoom, ha, hcode, howner, hstate, hrevision, hexpiry]
    rfl

/-! ## Decoding the children of a room -/

theorem selectMembers_nodup (db : Database) (roomId : String) :
    ((db.selectMembers roomId).map fun e => e.1.sessionId).Nodup := by
  have hkeys : ((db.selectMembers roomId).map Prod.fst).Nodup := by
    unfold Database.selectMembers
    rw [Std.ExtTreeMap.map_fst_toList_eq_keys]
    exact Std.ExtTreeMap.nodup_keys
  have hmap : (db.selectMembers roomId).map (fun e => e.1.sessionId) =
      ((db.selectMembers roomId).map Prod.fst).map MemberKey.sessionId := by
    rw [List.map_map]
    rfl
  rw [hmap]
  refine hkeys.map_on fun a ha b hb hab => ?_
  obtain ⟨⟨ka, ra⟩, hra, rfl⟩ := List.mem_map.mp ha
  obtain ⟨⟨kb, rb⟩, hrb, rfl⟩ := List.mem_map.mp hb
  have hroom := (Database.mem_selectMembers.mp hra).2.trans (Database.mem_selectMembers.mp hrb).2.symm
  exact MemberKey.ext hroom hab

theorem selectJoinRequests_nodup (db : Database) (roomId : String) :
    ((db.selectJoinRequests roomId).map Prod.fst).Nodup := by
  unfold Database.selectJoinRequests
  rw [Std.ExtTreeMap.map_fst_toList_eq_keys]
  exact Std.ExtTreeMap.nodup_keys

/-- The membership rows of a room decode and restore to the memberships that they hold. -/
theorem loadMembers_iff :
    (∃ snapshots, (db.selectMembers roomId).mapM decodeMembership = .ok snapshots ∧
      Room.restoreMemberships snapshots = .ok memberships) ↔ StoresMembers db roomId memberships := by
  constructor
  · rintro ⟨snapshots, hread, hrestore⟩
    obtain ⟨-, -, -, hmap⟩ := BTreeMap.collect_ok hrestore
    simp only [Std.ExtTreeMap.getElem?_empty, reduceCtorEq, false_or] at hmap
    refine ⟨fun s m hm => ?_, fun session row hrow => ?_⟩
    · obtain ⟨snapshot, hs, rfl, rfl⟩ := (hmap s m).mp hm
      obtain ⟨⟨key, row⟩, hrow, hdecode⟩ := (mem_of_mapM hread).mp hs
      obtain ⟨hget, hroom⟩ := Database.mem_selectMembers.mp hrow
      obtain ⟨hsession, hholds⟩ := decodeMembership_ok.mp hdecode
      have hkey : key = ⟨roomId, snapshot.sessionId.value⟩ := MemberKey.ext hroom hsession
      exact ⟨row, hkey ▸ hget, hholds⟩
    · have hmem : ((⟨roomId, session⟩ : MemberKey), row) ∈ db.selectMembers roomId :=
        Database.mem_selectMembers.mpr ⟨hrow, rfl⟩
      obtain ⟨snapshot, hs, hdecode⟩ := mapM_reads hread hmem
      obtain ⟨hsession, -⟩ := decodeMembership_ok.mp hdecode
      exact ⟨snapshot.sessionId, _, hsession, (hmap _ _).mpr ⟨snapshot, hs, rfl, rfl⟩⟩
  · intro h
    have hdecode : ∀ e ∈ db.selectMembers roomId, ∃ (s : SessionId) (m : Membership), memberships[s]? = some m ∧
        decodeMembership e = .ok { sessionId := s, role := m.role, state := m.state } := by
      rintro ⟨key, row⟩ he
      obtain ⟨hget, hroom⟩ := Database.mem_selectMembers.mp he
      obtain ⟨s, m, hsession, hm⟩ := h.only key.sessionId row (by rw [← hroom]; exact hget)
      obtain ⟨row', hget', hholds⟩ := h.stored s m hm
      have hkey : key = ⟨roomId, s.value⟩ := MemberKey.ext hroom hsession
      rw [hkey, hget'] at hget
      cases hget
      exact ⟨s, m, hm, decodeMembership_ok.mpr ⟨hsession, hholds⟩⟩
    obtain ⟨snapshots, hread⟩ := mapM_of_forall fun e he => by
      obtain ⟨s, m, -, hd⟩ := hdecode e he
      exact ⟨_, hd⟩
    refine ⟨snapshots, hread, BTreeMap.collect_of_mem (fun _ _ => rfl) ?_ fun s m => ?_⟩
    · have hkeys : snapshots.map (fun snapshot => snapshot.sessionId.value) =
          (db.selectMembers roomId).map fun e => e.1.sessionId :=
        map_of_mapM (fun _ _ hd => (decodeMembership_ok.mp hd).1.symm) hread
      have hnodup := selectMembers_nodup db roomId
      rw [← hkeys] at hnodup
      exact List.Nodup.of_map (f := Identifier.value) (by rw [List.map_map]; exact hnodup)
    · constructor
      · intro hm
        obtain ⟨row, hget, hholds⟩ := h.stored s m hm
        refine ⟨{ sessionId := s, role := m.role, state := m.state },
          (mem_of_mapM hread).mpr ⟨(⟨roomId, s.value⟩, row), ?_, ?_⟩, rfl, rfl⟩
        · exact Database.mem_selectMembers.mpr ⟨hget, rfl⟩
        · exact decodeMembership_ok.mpr ⟨rfl, hholds⟩
      · rintro ⟨snapshot, hs, rfl, rfl⟩
        obtain ⟨e, he, hd⟩ := (mem_of_mapM hread).mp hs
        obtain ⟨s, m, hm, hd'⟩ := hdecode e he
        rw [hd] at hd'
        cases hd'
        exact hm

theorem loadRequests_iff {expiresAt : Nat} :
    (∃ snapshots, (db.selectJoinRequests roomId).mapM decodeJoinRequest = .ok snapshots ∧
      Room.restoreJoinRequests expiresAt snapshots = .ok joinRequests) ↔
      StoresRequests db roomId joinRequests ∧
        ∀ (q : RequestId) (r : JoinRequest), joinRequests[q]? = some r → r.expiresAt ≤ expiresAt := by
  constructor
  · rintro ⟨snapshots, hread, hrestore⟩
    obtain ⟨hwithin, hmap⟩ := Room.restoreJoinRequests_ok hrestore
    refine ⟨⟨fun q r hr => ?_, fun id row hrow hroom => ?_⟩, fun q r hr => hwithin _ ((hmap q r).mp hr)⟩
    · obtain ⟨⟨id, row⟩, hrow, hdecode⟩ := (mem_of_mapM hread).mp ((hmap q r).mp hr)
      obtain ⟨hget, hroom⟩ := Database.mem_selectJoinRequests.mp hrow
      obtain ⟨hid, hsession, hstate, hexpiry⟩ := decodeJoinRequest_ok.mp hdecode
      have hid : id = q.value := hid
      exact ⟨row, hid ▸ hget, hroom, hsession, hstate, hexpiry⟩
    · obtain ⟨snapshot, hs, hdecode⟩ := mapM_reads hread (Database.mem_selectJoinRequests.mpr ⟨hrow, hroom⟩)
      obtain ⟨hid, -⟩ := decodeJoinRequest_ok.mp hdecode
      exact ⟨snapshot.requestId, ⟨snapshot.sessionId, snapshot.expiresAt, snapshot.state⟩, hid, (hmap _ _).mpr hs⟩
  · rintro ⟨h, hwithin⟩
    have hdecode : ∀ e ∈ db.selectJoinRequests roomId, ∃ (q : RequestId) (r : JoinRequest),
        joinRequests[q]? = some r ∧ decodeJoinRequest e = .ok (Room.requestSnapshot q r) := by
      rintro ⟨id, row⟩ he
      obtain ⟨hget, hroom⟩ := Database.mem_selectJoinRequests.mp he
      obtain ⟨q, r, rfl, hr⟩ := h.only id row hget hroom
      obtain ⟨row', hget', hholds⟩ := h.stored q r hr
      rw [hget'] at hget
      cases hget
      exact ⟨q, r, hr, decodeJoinRequest_ok.mpr ⟨rfl, hholds.session, hholds.state, hholds.expiresAt⟩⟩
    obtain ⟨snapshots, hread⟩ := mapM_of_forall fun e he => by
      obtain ⟨q, r, -, hd⟩ := hdecode e he
      exact ⟨_, hd⟩
    have hmem : ∀ snapshot ∈ snapshots, ∃ (q : RequestId) (r : JoinRequest), joinRequests[q]? = some r ∧
        snapshot = Room.requestSnapshot q r := by
      intro snapshot hs
      obtain ⟨e, he, hd⟩ := (mem_of_mapM hread).mp hs
      obtain ⟨q, r, hr, hd'⟩ := hdecode e he
      rw [hd] at hd'
      exact ⟨q, r, hr, Except.ok.inj hd'⟩
    refine ⟨snapshots, hread, BTreeMap.collect_of_mem (fun snapshot hs => ?_) ?_ fun q r => ?_⟩
    · obtain ⟨q, r, hr, rfl⟩ := hmem snapshot hs
      exact if_neg (by have := hwithin q r hr; simpa [Room.requestSnapshot] using this)
    · have hkeys : snapshots.map (fun snapshot => snapshot.requestId.value) =
          (db.selectJoinRequests roomId).map Prod.fst :=
        map_of_mapM (fun _ _ hd => (decodeJoinRequest_ok.mp hd).1.symm) hread
      have hnodup := selectJoinRequests_nodup db roomId
      rw [← hkeys] at hnodup
      exact List.Nodup.of_map (f := Identifier.value) (by rw [List.map_map]; exact hnodup)
    · constructor
      · intro hr
        obtain ⟨row, hget, hholds⟩ := h.stored q r hr
        refine ⟨Room.requestSnapshot q r, (mem_of_mapM hread).mpr ⟨(q.value, row), ?_, ?_⟩, rfl, rfl⟩
        · exact Database.mem_selectJoinRequests.mpr ⟨hget, hholds.room⟩
        · exact decodeJoinRequest_ok.mpr ⟨rfl, hholds.session, hholds.state, hholds.expiresAt⟩
      · rintro ⟨snapshot, hs, rfl, rfl⟩
        obtain ⟨q, r, hr, rfl⟩ := hmem snapshot hs
        exact hr

/-! ## Loading a room -/

/-- **Loading is reading the rows.** -/
theorem loadRoomAt_some :
    loadRoomAt first second third code = .ok (some room) ↔
      (∃ row, first.selectRoom code.value = some (room.id.value, row) ∧ row.Holds room) ∧ room.code = code ∧
        StoresMembers second room.id.value room.memberships ∧ StoresRequests third room.id.value room.joinRequests ∧
        Room.Verified room ∧ Room.Within room := by
  constructor
  · intro h
    unfold loadRoomAt at h
    split at h
    · cases h
    rename_i id row hselect
    obtain ⟨decoded, hdecode, h⟩ := bind_ok.mp h
    obtain ⟨memberships, hmembers, h⟩ := bind_ok.mp h
    obtain ⟨requests, hrequests, h⟩ := bind_ok.mp h
    split at h
    · rename_i restored hrestore
      cases h
      obtain ⟨hm, hr, hv, hid, hcode, howner, hexpiry, hstate, hrevision⟩ := Room.restore_iff.mp hrestore
      obtain ⟨-, hrow⟩ := Database.selectRoom_some hselect
      obtain ⟨hid', hcode', hrowOwner, hrowState, hrowRevision, hrowExpiry⟩ := (decodeRoom_ok hrow).mp hdecode
      have hcodes : room.code = code := by rw [hcode, hcode']
      rw [← hid] at hmembers hrequests hid'
      rw [← hexpiry] at hr
      have hrequests := loadRequests_iff.mp ⟨_, hrequests, hr⟩
      refine ⟨⟨row, by rw [hselect, hid'], ?_⟩, hcodes, loadMembers_iff.mp ⟨_, hmembers, hm⟩, hrequests.1, hv,
        hrequests.2⟩
      exact ⟨by rw [hrow, hcodes], by rw [hrowOwner, howner], by rw [hrowState, hstate],
        by rw [hrowRevision, hrevision], by rw [hrowExpiry, hexpiry]⟩
    · cases h
  · rintro ⟨⟨row, hselect, hholds⟩, rfl, hmembers, hrequests, hv, hwithin⟩
    obtain ⟨memberships, hm, hrestoreMembers⟩ := loadMembers_iff.mpr hmembers
    obtain ⟨requests, hr, hrestoreRequests⟩ := loadRequests_iff.mpr ⟨hrequests, hwithin⟩
    have hdecode : decodeRoom room.id.value row = .ok
        { id := room.id, code := room.code, owner := room.owner, state := room.state, revision := room.revision
          expiresAt := room.expiresAt } :=
      (decodeRoom_ok hholds.code).mpr ⟨rfl, rfl, hholds.owner, hholds.state, hholds.revision, hholds.expiresAt⟩
    have hrestore : Room.restore room.id room.code room.owner room.expiresAt room.state room.revision memberships
        requests = .ok room :=
      Room.restore_iff.mpr ⟨hrestoreMembers, hrestoreRequests, hv, rfl, rfl, rfl, rfl, rfl, rfl⟩
    unfold loadRoomAt
    rw [hselect]
    simp only [hdecode, hm, hr, hrestore, bind, Except.bind]

end P2PTransmission
