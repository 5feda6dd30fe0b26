import P2PTransmission.Foundation.Fallible
import P2PTransmission.Foundation.Table
import P2PTransmission.Storage.Codec

/-!
# The schema

The tables that hold sessions, rooms, memberships and join requests, with the constraints of the migration. A row is
kept under its primary key; the columns of the key are not repeated in it, except that a join request names its room in
a column of its own: the table is keyed by the request id alone.
-/

set_option autoImplicit false

namespace P2PTransmission

/-! ## Rows -/

structure SessionRow where
  displayName : String
  state : String
  createdAtMs : Int
  expiresAtMs : Int
  updatedAtMs : Int
  deriving DecidableEq, Repr

structure RoomRow where
  code : String
  ownerSessionId : String
  createRequestId : String
  state : String
  revision : Int
  createdAtMs : Int
  expiresAtMs : Int
  updatedAtMs : Int
  deriving DecidableEq, Repr

/-- The primary key of `room_members`. -/
structure MemberKey where
  roomId : String
  sessionId : String
  deriving DecidableEq, Repr

structure MemberRow where
  role : String
  state : String
  peerId : Option String
  createdAtMs : Int
  updatedAtMs : Int
  deriving DecidableEq, Repr

structure JoinRequestRow where
  roomId : String
  sessionId : String
  state : String
  createdAtMs : Int
  expiresAtMs : Int
  updatedAtMs : Int
  deriving DecidableEq, Repr

namespace MemberKey

@[ext] theorem ext {a b : MemberKey} (hroom : a.roomId = b.roomId) (hsession : a.sessionId = b.sessionId) : a = b := by
  cases a; cases b; cases hroom; cases hsession; rfl

instance : Ord MemberKey := ⟨compareLex (compareOn MemberKey.roomId) (compareOn MemberKey.sessionId)⟩

instance : Std.TransOrd MemberKey :=
  inferInstanceAs (Std.TransCmp (compareLex (compareOn MemberKey.roomId) (compareOn MemberKey.sessionId)))

instance : Std.LawfulEqOrd MemberKey where
  eq_of_compare {a b} h := by
    have h : compareLex (compareOn MemberKey.roomId) (compareOn MemberKey.sessionId) a b = .eq := h
    rw [compareLex_eq_eq] at h
    have hroom : a.roomId = b.roomId := Std.LawfulEqOrd.eq_of_compare h.1
    have hsession : a.sessionId = b.sessionId := Std.LawfulEqOrd.eq_of_compare h.2
    exact ext hroom hsession

end MemberKey

structure Database where
  sessions : BTreeMap String SessionRow
  rooms : BTreeMap String RoomRow
  roomMembers : BTreeMap MemberKey MemberRow
  joinRequests : BTreeMap String JoinRequestRow
  deriving DecidableEq

namespace Database

/-- The database after the migration. -/
def empty : Database := { sessions := ∅, rooms := ∅, roomMembers := ∅, joinRequests := ∅ }

/-! ## Constraints -/

/-- `created_at_ms >= 0` and `updated_at_ms >= created_at_ms`, which every table demands. -/
def checkTimes (createdAtMs updatedAtMs : Int) : Bool := 0 ≤ createdAtMs && createdAtMs ≤ updatedAtMs

def sessionConstraints : Constraints String SessionRow where
  check row := ["active", "expired"].contains row.state && checkTimes row.createdAtMs row.updatedAtMs &&
    row.createdAtMs < row.expiresAtMs
  clash _ _ _ := false
  references _ _ := true

def roomConstraints (db : Database) : Constraints String RoomRow where
  check row := ["active", "expired"].contains row.state && 1 ≤ row.revision &&
    checkTimes row.createdAtMs row.updatedAtMs && row.createdAtMs < row.expiresAtMs
  clash table id row := table.toList.any fun e => e.1 ≠ id ∧ (e.2.code = row.code ∨
    (e.2.ownerSessionId = row.ownerSessionId ∧ e.2.createRequestId = row.createRequestId))
  references _ row := db.sessions.contains row.ownerSessionId

def memberConstraints (db : Database) : Constraints MemberKey MemberRow where
  check row := ["owner", "receiver"].contains row.role && ["offline", "online", "left"].contains row.state &&
    checkTimes row.createdAtMs row.updatedAtMs && (row.state == "online") == row.peerId.isSome
  clash _ _ _ := false
  references key _ := db.rooms.contains key.roomId && db.sessions.contains key.sessionId

def joinRequestConstraints (db : Database) : Constraints String JoinRequestRow where
  check row := ["pending", "approved", "rejected", "cancelled", "expired"].contains row.state &&
    checkTimes row.createdAtMs row.updatedAtMs && row.createdAtMs < row.expiresAtMs
  -- the partial index `join_requests_one_pending_per_session_idx`
  clash table id row := row.state = "pending" ∧ table.toList.any fun e => e.1 ≠ id ∧ e.2.state = "pending" ∧
    e.2.roomId = row.roomId ∧ e.2.sessionId = row.sessionId
  references _ row := db.rooms.contains row.roomId && db.sessions.contains row.sessionId

/-! ## Queries -/

/-- `SELECT … FROM rooms WHERE code = ?`, of which the first row is fetched. -/
def selectRoom (db : Database) (code : String) : Option (String × RoomRow) :=
  (db.rooms.filter fun _ row => row.code = code).toList.head?

/-- `SELECT … FROM room_members WHERE room_id = ? ORDER BY session_id`. -/
def selectMembers (db : Database) (roomId : String) : List (MemberKey × MemberRow) :=
  (db.roomMembers.filter fun key _ => key.roomId = roomId).toList

/-- `SELECT … FROM join_requests WHERE room_id = ? ORDER BY id`. -/
def selectJoinRequests (db : Database) (roomId : String) : List (String × JoinRequestRow) :=
  (db.joinRequests.filter fun _ row => row.roomId = roomId).toList

variable {db : Database}

/-- The rows that pass a `WHERE`. -/
theorem getElem?_where {K R : Type} [Ord K] [Std.TransOrd K] [Std.LawfulEqOrd K] {table : BTreeMap K R}
    {condition : K → R → Bool} {key : K} {row : R} :
    (table.filter condition)[key]? = some row ↔ table[key]? = some row ∧ condition key row = true := by
  rw [Std.ExtTreeMap.getElem?_filter', Option.filter_eq_some_iff]

theorem mem_selectMembers {roomId : String} {key : MemberKey} {row : MemberRow} :
    (key, row) ∈ db.selectMembers roomId ↔ db.roomMembers[key]? = some row ∧ key.roomId = roomId := by
  unfold selectMembers
  rw [BTreeMap.mem_toList, getElem?_where, decide_eq_true_eq]

theorem mem_selectJoinRequests {roomId id : String} {row : JoinRequestRow} :
    (id, row) ∈ db.selectJoinRequests roomId ↔ db.joinRequests[id]? = some row ∧ row.roomId = roomId := by
  unfold selectJoinRequests
  rw [BTreeMap.mem_toList, getElem?_where, decide_eq_true_eq]

/-- No two rooms have the same code. -/
def CodeUnique (db : Database) : Prop :=
  ∀ (id id' : String) (row row' : RoomRow), db.rooms[id]? = some row → db.rooms[id']? = some row' →
    row.code = row'.code → id = id'

/-- A room row that clashes with no other has a code of its own. -/
theorem code_of_clash {id : String} {row : RoomRow} (h : db.roomConstraints.clash db.rooms id row = false)
    {id' : String} {other : RoomRow} (hother : db.rooms[id']? = some other) (hid : id' ≠ id) :
    other.code ≠ row.code := by
  have hfree := (BTreeMap.any_toList_eq_false (p := fun id' (other : RoomRow) => decide (id' ≠ id ∧
    (other.code = row.code ∨ (other.ownerSessionId = row.ownerSessionId ∧
      other.createRequestId = row.createRequestId))))).mp h id' other hother
  rw [decide_eq_false_iff_not] at hfree
  intro hcode
  exact hfree ⟨hid, .inl hcode⟩

theorem selectRoom_some {code id : String} {row : RoomRow} (h : db.selectRoom code = some (id, row)) :
    db.rooms[id]? = some row ∧ row.code = code := by
  have hmem := List.mem_of_mem_head? h
  rwa [BTreeMap.mem_toList, getElem?_where, decide_eq_true_eq] at hmem

theorem selectRoom_of_unique (hu : db.CodeUnique) {id : String} {row : RoomRow} (h : db.rooms[id]? = some row) :
    db.selectRoom row.code = some (id, row) := by
  cases hs : db.selectRoom row.code with
  | none =>
    have hmem : (id, row) ∈ (db.rooms.filter fun _ row' => row'.code = row.code).toList := by
      rw [BTreeMap.mem_toList, getElem?_where, decide_eq_true_eq]
      exact ⟨h, rfl⟩
    rw [List.head?_eq_none_iff.mp hs] at hmem
    cases hmem
  | some e =>
    obtain ⟨hrow, hcode⟩ := selectRoom_some hs
    have hid : e.1 = id := hu _ _ _ _ hrow h hcode
    rw [hid, h] at hrow
    cases hrow
    rw [← hid]

/-! ## Queries that see the same rows -/

variable {db' : Database}

theorem selectRoom_congr {code : String}
    (h : ∀ (id : String) (row : RoomRow), row.code = code → (db'.rooms[id]? = some row ↔ db.rooms[id]? = some row)) :
    db'.selectRoom code = db.selectRoom code := by
  unfold selectRoom
  have hfilter : (db'.rooms.filter fun _ row => row.code = code) = db.rooms.filter fun _ row => row.code = code := by
    refine BTreeMap.ext_some fun id row => ?_
    rw [getElem?_where, getElem?_where, decide_eq_true_eq]
    exact and_congr_left fun hrow => h id row hrow
  rw [hfilter]

theorem selectMembers_congr {roomId : String}
    (h : ∀ key : MemberKey, key.roomId = roomId → db'.roomMembers[key]? = db.roomMembers[key]?) :
    db'.selectMembers roomId = db.selectMembers roomId := by
  unfold selectMembers
  have hfilter : (db'.roomMembers.filter fun key _ => key.roomId = roomId) =
      db.roomMembers.filter fun key _ => key.roomId = roomId := by
    refine BTreeMap.ext_some fun key row => ?_
    rw [getElem?_where, getElem?_where, decide_eq_true_eq]
    exact and_congr_left fun hkey => by rw [h key hkey]
  rw [hfilter]

theorem selectJoinRequests_congr {roomId : String}
    (h : ∀ (id : String) (row : JoinRequestRow), row.roomId = roomId →
      (db'.joinRequests[id]? = some row ↔ db.joinRequests[id]? = some row)) :
    db'.selectJoinRequests roomId = db.selectJoinRequests roomId := by
  unfold selectJoinRequests
  have hfilter : (db'.joinRequests.filter fun _ row => row.roomId = roomId) =
      db.joinRequests.filter fun _ row => row.roomId = roomId := by
    refine BTreeMap.ext_some fun id row => ?_
    rw [getElem?_where, getElem?_where, decide_eq_true_eq]
    exact and_congr_left fun hrow => h id row hrow
  rw [hfilter]

end Database

end P2PTransmission
