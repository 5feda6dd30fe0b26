import P2PTransmission.Domain.Room
import P2PTransmission.Domain.Session

/-!
# Columns

How the values of the domain are written into `TEXT` and `INTEGER` columns and read back. An enumeration is written as
one of a few texts; `ParsesText` says that its parser reads exactly the texts that are written, and the peer of an
online membership is the nullable column `peer_id`.
-/

set_option autoImplicit false

namespace P2PTransmission

/-! ## Errors -/

/-- What `StorageError::CorruptData` reports about a stored value. -/
inductive CorruptData where
  | identifier (field value : String) (error : IdError)
  | roomCode (field value : String) (error : RoomCodeError)
  | text (field value : String)
  | negative (field : String) (value : Int)
  | peerState
  deriving DecidableEq, Repr

inductive StorageError where
  /-- An error of SQLite that is neither of the two constraint conflicts below. -/
  | database
  | integerOutOfRange (value : Nat)
  | corruptData (data : CorruptData)
  | corruptRoom (error : RoomRestoreError)
  | roomNotFound
  | uniqueConflict
  | foreignKeyViolation
  | revisionConflict (expected actual : Nat)
  | room (error : RoomError)
  deriving DecidableEq

/-! ## Integers -/

def I64_MAX : Nat := 2 ^ 63 - 1

def sqlInteger (value : Nat) : Except StorageError Int :=
  if value ≤ I64_MAX then .ok value else .error (.integerOutOfRange value)

def unsignedSqlInteger (value : Int) (field : String) : Except StorageError Nat :=
  if 0 ≤ value then .ok value.toNat else .error (.corruptData (.negative field value))

theorem sqlInteger_ok {value : Nat} {column : Int} (h : sqlInteger value = .ok column) : column = value := by
  unfold sqlInteger at h
  split at h
  · cases h; rfl
  · cases h

theorem unsignedSqlInteger_ok {value : Int} {field : String} {n : Nat} (h : unsignedSqlInteger value field = .ok n) :
    value = n := by
  unfold unsignedSqlInteger at h
  split at h
  · cases h; omega
  · cases h

theorem unsignedSqlInteger_natCast (n : Nat) (field : String) : unsignedSqlInteger n field = .ok n := by
  unfold unsignedSqlInteger
  rw [if_pos (Int.natCast_nonneg n), Int.toNat_natCast]

/-! ## Texts of enumerations -/

/-- Read one of the texts of an enumeration. -/
def parseText {α : Type} (field : String) (texts : List (String × α)) (value : String) : Except StorageError α :=
  match texts.find? (fun e => e.1 = value) with
  | some (_, a) => .ok a
  | none => .error (.corruptData (.text field value))

/-- A parser of texts accepts what `text` writes and nothing else. -/
def ParsesText {α : Type} (parse : String → Except StorageError α) (text : α → String) : Prop :=
  ∀ value a, parse value = .ok a ↔ value = text a

theorem parseText_parses {α : Type} {field : String} {texts : List (String × α)} {text : α → String}
    (hread : ∀ a, parseText field texts (text a) = .ok a) (hwrite : ∀ e ∈ texts, e.1 = text e.2) :
    ParsesText (parseText field texts) text := by
  intro value a
  constructor
  · intro h
    unfold parseText at h
    split at h
    · rename_i v b hfind
      cases h
      have hmem := hwrite _ (List.mem_of_find?_eq_some hfind)
      have hv : v = value := by simpa using List.find?_some hfind
      rw [← hv]
      exact hmem
    · cases h
  · rintro rfl
    exact hread a

def roomStateText : RoomState → String
  | .active => "active"
  | .expired => "expired"

def parseRoomState : String → Except StorageError RoomState :=
  parseText "rooms.state" [("active", .active), ("expired", .expired)]

def membershipRoleText : MembershipRole → String
  | .owner => "owner"
  | .receiver => "receiver"

def parseMembershipRole : String → Except StorageError MembershipRole :=
  parseText "room_members.role" [("owner", .owner), ("receiver", .receiver)]

def joinRequestStateText : JoinRequestState → String
  | .pending => "pending"
  | .approved => "approved"
  | .rejected => "rejected"
  | .cancelled => "cancelled"
  | .expired => "expired"

def parseJoinRequestState : String → Except StorageError JoinRequestState :=
  parseText "join_requests.state" [("pending", .pending), ("approved", .approved), ("rejected", .rejected),
    ("cancelled", .cancelled), ("expired", .expired)]

def sessionStateText : SessionState → String
  | .active => "active"
  | .expired => "expired"

theorem parseRoomState_iff : ParsesText parseRoomState roomStateText :=
  parseText_parses (fun a => by cases a <;> rfl) (by simp [roomStateText])

theorem parseMembershipRole_iff : ParsesText parseMembershipRole membershipRoleText :=
  parseText_parses (fun a => by cases a <;> rfl) (by simp [membershipRoleText])

theorem parseJoinRequestState_iff : ParsesText parseJoinRequestState joinRequestStateText :=
  parseText_parses (fun a => by cases a <;> rfl) (by simp [joinRequestStateText])

theorem joinRequestStateText_injective {a b : JoinRequestState} (h : joinRequestStateText a = joinRequestStateText b) :
    a = b := by
  have ha := (parseJoinRequestState_iff (joinRequestStateText a) a).mpr rfl
  rw [h, (parseJoinRequestState_iff _ b).mpr rfl] at ha
  exact (Except.ok.inj ha).symm

/-! ## Identifiers and codes -/

/-- Read a column that holds an identifier. -/
def decodeId (field kind value : String) : Except StorageError (Identifier kind) :=
  match Identifier.parse kind value with
  | .ok a => .ok a
  | .error error => .error (.corruptData (.identifier field value error))

def decodeRoomCode (field value : String) : Except StorageError RoomCode :=
  match RoomCode.parse value with
  | .ok code => .ok code
  | .error error => .error (.corruptData (.roomCode field value error))

theorem decodeId_ok {field kind value : String} {a : Identifier kind} :
    decodeId field kind value = .ok a ↔ value = a.value := by
  constructor
  · intro h
    unfold decodeId Identifier.parse at h
    split at h
    · rename_i b hb
      split at hb
      · cases hb; cases h; rfl
      · cases hb
    · cases h
  · rintro rfl
    unfold decodeId
    rw [Identifier.parse_value]

theorem decodeRoomCode_value (field : String) (code : RoomCode) : decodeRoomCode field code.value = .ok code := by
  unfold decodeRoomCode
  rw [RoomCode.parse_value]

/-! ## The state of a membership -/

def membershipStateParts : MembershipState → String × Option String
  | .offline => ("offline", none)
  | .online peerId => ("online", some peerId.value)
  | .left => ("left", none)

/-- Read the columns `state` and `peer_id` of a membership. -/
def decodeMembershipState (state : String) (peerId : Option String) : Except StorageError MembershipState :=
  match state, peerId with
  | "offline", none => .ok .offline
  | "left", none => .ok .left
  | "online", some peer => do return .online (← decodeId "room_members.peer_id" "peer id" peer)
  | _, _ => .error (.corruptData .peerState)

theorem decodeMembershipState_ok {text : String} {peer : Option String} {state : MembershipState} :
    decodeMembershipState text peer = .ok state ↔ (text, peer) = membershipStateParts state := by
  constructor
  · intro h
    unfold decodeMembershipState at h
    split at h
    · cases h; rfl
    · cases h; rfl
    · rename_i peer
      cases hid : decodeId "room_members.peer_id" "peer id" peer with
      | error e => rw [hid] at h; cases h
      | ok a =>
        rw [hid] at h
        cases h
        rw [decodeId_ok] at hid
        rw [hid]
        rfl
    · cases h
  · intro h
    cases state with
    | offline => cases h; rfl
    | left => cases h; rfl
    | online a =>
      cases h
      have hid : decodeId "room_members.peer_id" "peer id" a.value = .ok a := decodeId_ok.mpr rfl
      simp only [decodeMembershipState, hid]
      rfl

end P2PTransmission
