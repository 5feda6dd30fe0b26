import P2PTransmission.Services.Invites
import P2PTransmission.Foundation.Run

/-!
# What an invite is worth

All calls that return an invite of one request return the same one, in whatever order their statements run
(`Reliable.answers`), and a session can join with it the room that it was made for and no other, as long as it has not expired
(`Reliable.admits`). The second part rests on the hashes of the capabilities that were asked for: they must be different. The
texts under the code always are, since no identifier contains the colon between them (`capabilityMessage_injective`).
-/

set_option autoImplicit false

namespace P2PTransmission

/-! ## Messages -/

section Tables

variable {D : Type} [DecidableEq D] {secrets : Secrets D} {table table' : InviteTable D} {roomId : RoomId}
  {requestId : RequestId} {asked : String → Prop}

/-- The capability of a request under the secret, if the request was asked for. -/
def Derived (secrets : Secrets D) (asked : String → Prop) (roomId : RoomId) (requestId : RequestId) (capability : String) :
    Prop :=
  ∃ mac, secrets.mac = some mac ∧ asked (capabilityMessage roomId requestId) ∧
    capability = mac (capabilityMessage roomId requestId)

/-- An invite of the request is stored, with this expiry. -/
def Holds (table : InviteTable D) (roomId : RoomId) (requestId : RequestId) (expiresAt : Nat) : Prop :=
  ∃ (id : String) (row : InviteRow D), table[id]? = some row ∧ row.roomId = roomId.value ∧
    row.requestId = requestId.value ∧ row.expiresAtMs = expiresAt

/-- A request has one invite at most, which is not consumed and stored under the hash of its capability. -/
structure InvitesOk (secrets : Secrets D) (asked : String → Prop) (table : InviteTable D) : Prop where
  unique : ∀ (id id' : String) (row row' : InviteRow D), table[id]? = some row → table[id']? = some row' →
    row.roomId = row'.roomId → row.requestId = row'.requestId → row = row'
  derived : ∀ (id : String) (row : InviteRow D), table[id]? = some row → ∃ roomId requestId capability,
    Derived secrets asked roomId requestId capability ∧ row.roomId = roomId.value ∧ row.requestId = requestId.value ∧
      row.capabilityHash = secrets.hash capability ∧ row.consumedAtMs = none

/-- The invites stay. -/
def Keeps (table table' : InviteTable D) : Prop :=
  ∀ (id : String) (row : InviteRow D), table[id]? = some row → table'[id]? = some row

omit [DecidableEq D] in
theorem Holds.keeps {expiresAt : Nat} (h : Holds table roomId requestId expiresAt) (hkeeps : Keeps table table') :
    Holds table' roomId requestId expiresAt := by
  obtain ⟨id, row, hrow, hvalues⟩ := h
  exact ⟨id, row, hkeeps id row hrow, hvalues⟩

omit [DecidableEq D] in
theorem Derived.unique {capability capability' : String} (h : Derived secrets asked roomId requestId capability)
    (h' : Derived secrets asked roomId requestId capability') : capability = capability' := by
  obtain ⟨mac, hmac, -, rfl⟩ := h
  obtain ⟨mac', hmac', -, rfl⟩ := h'
  rw [hmac] at hmac'
  cases hmac'
  rfl

theorem insertInviteCapability_ok {capabilityId : String} {capabilityHash : D} {now expiresAt : Nat} {db : Database}
    (h : insertInviteCapability capabilityId roomId requestId capabilityHash now expiresAt db table = .ok table') :
    ∃ row : InviteRow D, table[capabilityId]? = none ∧ (inviteConstraints db).clash table capabilityId row = false ∧
      table' = table.insert capabilityId row ∧ row.roomId = roomId.value ∧ row.requestId = requestId.value ∧
      row.capabilityHash = capabilityHash ∧ row.expiresAtMs = expiresAt ∧ row.consumedAtMs = none := by
  unfold insertInviteCapability at h
  obtain ⟨createdAtMs, -, h⟩ := bind_ok.mp h
  obtain ⟨expiresAtMs, hexpires, h⟩ := bind_ok.mp h
  obtain ⟨-, hnone, hclash, -, rfl⟩ := Table.insert_ok.mp (mapWrite_ok h)
  exact ⟨_, hnone, hclash, rfl, rfl, rfl, rfl, sqlInteger_ok hexpires, rfl⟩

omit [DecidableEq D] in
theorem keeps_insert {id : String} {row : InviteRow D} (hnone : table[id]? = none) : Keeps table (table.insert id row) := by
  intro other stored hstored
  rw [BTreeMap.getElem?_insert, if_neg]
  · exact hstored
  · rintro rfl
    rw [hnone] at hstored
    cases hstored

theorem InvitesOk.insert (h : InvitesOk secrets asked table) {id capability : String} {row : InviteRow D} {db : Database}
    (hclash : (inviteConstraints db).clash table id row = false)
    (hderived : Derived secrets asked roomId requestId capability) (hroom : row.roomId = roomId.value)
    (hrequest : row.requestId = requestId.value) (hhash : row.capabilityHash = secrets.hash capability)
    (hconsumed : row.consumedAtMs = none) : InvitesOk secrets asked (table.insert id row) := by
  have hother : ∀ (other : String) (stored : InviteRow D), other ≠ id → table[other]? = some stored →
      ¬(stored.roomId = row.roomId ∧ stored.requestId = row.requestId) := by
    intro other stored hne hstored hsame
    have hfree := BTreeMap.any_toList_eq_false (p := fun key e : _ => decide (key ≠ id ∧
      (InviteRow.capabilityHash e = row.capabilityHash ∨ (e.roomId = row.roomId ∧ e.requestId = row.requestId)))) |>.mp hclash
      other stored hstored
    simp [hne, hsame] at hfree
  refine ⟨fun a b ra rb ha hb hsameRoom hsameRequest => ?_, fun a ra ha => ?_⟩
  · rw [BTreeMap.getElem?_insert] at ha hb
    split at ha
    · cases ha
      split at hb
      · cases hb
        rfl
      · rename_i hne
        exact absurd ⟨hsameRoom.symm, hsameRequest.symm⟩ (hother b rb (Ne.symm hne) hb)
    · rename_i hne
      split at hb
      · cases hb
        exact absurd ⟨hsameRoom, hsameRequest⟩ (hother a ra (Ne.symm hne) ha)
      · exact h.unique a b ra rb ha hb hsameRoom hsameRequest
  · rw [BTreeMap.getElem?_insert] at ha
    split at ha
    · cases ha
      exact ⟨roomId, requestId, capability, hderived, hroom, hrequest, hhash, hconsumed⟩
    · exact h.derived a ra ha

/-- What `validate_invite_capability` asks of a row. -/
abbrev InviteRow.Opens (row : InviteRow D) (roomId : RoomId) (capabilityHash : D) (nowMs : Int) : Prop :=
  row.roomId = roomId.value ∧ row.capabilityHash = capabilityHash ∧ nowMs < row.expiresAtMs ∧ row.consumedAtMs = none

omit [DecidableEq D] in
/-- The invite of a request is stored under the hash of its capability. -/
theorem InvitesOk.stored (h : InvitesOk secrets asked table) {mac : String → String} (hmac : secrets.mac = some mac)
    {id : String} {row : InviteRow D} (hrow : table[id]? = some row) (hroom : row.roomId = roomId.value)
    (hrequest : row.requestId = requestId.value) :
    row.capabilityHash = secrets.hash (mac (capabilityMessage roomId requestId)) ∧ row.consumedAtMs = none := by
  obtain ⟨roomId', requestId', _, ⟨mac', hmac', -, rfl⟩, hroom', hrequest', hhash, hconsumed⟩ := h.derived id row hrow
  rw [hmac] at hmac'
  cases hmac'
  have hsameRoom : roomId' = roomId := Identifier.ext (hroom'.symm.trans hroom)
  have hsameRequest : requestId' = requestId := Identifier.ext (hrequest'.symm.trans hrequest)
  rw [hsameRoom, hsameRequest] at hhash
  exact ⟨hhash, hconsumed⟩

end Tables

/-! ## Calls -/

namespace InviteCall

variable {D : Type} [DecidableEq D] {secrets : Secrets D} {asked : String → Prop} {table table' : InviteTable D}
  {call call' : InviteCall}

/-- The call knows its capability, and what it has answered is stored. -/
structure Sound (secrets : Secrets D) (asked : String → Prop) (table : InviteTable D) (call : InviteCall) : Prop where
  derived : Derived secrets asked call.room.id call.requestId call.capability
  answered : ∀ response, call.point = .returned (.ok response) →
    response.capability = call.capability ∧ Holds table call.room.id call.requestId response.expiresAtMs

omit [DecidableEq D] in
theorem Sound.keeps (h : call.Sound secrets asked table) (hkeeps : Keeps table table') :
    call.Sound secrets asked table' := by
  refine ⟨h.derived, fun response hpoint => ?_⟩
  obtain ⟨hcapability, hholds⟩ := h.answered response hpoint
  exact ⟨hcapability, hholds.keeps hkeeps⟩

omit [DecidableEq D] in
theorem sound_goto (h : call.Sound secrets asked table) {point : InvitePoint}
    (hpoint : ∀ response, point ≠ .returned (.ok response)) : ({ call with point } : InviteCall).Sound secrets asked table :=
  ⟨h.derived, fun response hreturned => absurd hreturned (hpoint response)⟩

omit [DecidableEq D] in
theorem sound_respond (h : call.Sound secrets asked table) {expiresAt : Nat}
    (hholds : Holds table call.room.id call.requestId expiresAt) : (call.respond expiresAt).Sound secrets asked table := by
  refine ⟨h.derived, fun response hreturned => ?_⟩
  cases hreturned
  exact ⟨rfl, hholds⟩

theorem sound_insert (h : call.Sound secrets asked table) (hok : InvitesOk secrets asked table) {capabilityId : String}
    {expiresAt : Nat} {db : Database} (hinsert : call.insert secrets capabilityId expiresAt db table = (table', call')) :
    InvitesOk secrets asked table' ∧ Keeps table table' ∧ call'.Sound secrets asked table' := by
  have hrefl : Keeps table table := fun _ _ hrow => hrow
  unfold insert at hinsert
  split at hinsert
  · rename_i inserted hinserted
    cases hinsert
    obtain ⟨row, hnone, hclash, rfl, hroom, hrequest, hhash, hexpires, hconsumed⟩ := insertInviteCapability_ok hinserted
    have hkeeps : Keeps table (table.insert capabilityId row) := keeps_insert hnone
    refine ⟨hok.insert hclash h.derived hroom hrequest hhash hconsumed, hkeeps, sound_respond (h.keeps hkeeps) ?_⟩
    exact ⟨capabilityId, row, by rw [BTreeMap.getElem?_insert, if_pos rfl], hroom, hrequest, hexpires⟩
  · cases hinsert
    exact ⟨hok, hrefl, sound_goto h (by simp)⟩
  · cases hinsert
    exact ⟨hok, hrefl, sound_goto h (by simp)⟩

omit [DecidableEq D] in
theorem start_sound {owner : Session} {requestId : RequestId} {now : Option Nat} {found : Except StorageError (Option Room)}
    (hstart : start secrets owner requestId now found = .ok call)
    (hasked : ∀ room, found = .ok (some room) → asked (capabilityMessage room.id requestId)) :
    call.Sound secrets asked table := by
  unfold start at hstart
  split at hstart
  · cases hstart
  split at hstart
  · cases hstart
  split at hstart
  · cases hstart
  · cases hstart
  · rename_i room
    split at hstart
    · cases hstart
    split at hstart
    · cases hstart
    · rename_i capability hcapability
      cases hstart
      unfold deriveCapability at hcapability
      split at hcapability
      · cases hcapability
      · rename_i mac hmac
        cases hcapability
        exact ⟨⟨mac, hmac, hasked room rfl, rfl⟩, fun response hreturned => by cases hreturned⟩

end InviteCall

/-! ## Runs -/

namespace Inviting

variable {D : Type} [DecidableEq D] {secrets : Secrets D} {inviteTtl : Nat} {asked : String → Prop}
  {world world' : Inviting D} {events : List Event}

/-- The text under the code that a call asks for. -/
def Event.message : Event → Option String
  | .createInvite _ _ requestId _ (.ok (some room)) => some (capabilityMessage room.id requestId)
  | _ => none

structure Sound (secrets : Secrets D) (asked : String → Prop) (world : Inviting D) : Prop where
  invites : InvitesOk secrets asked world.table
  calls : ∀ (n : Nat) (call : InviteCall), world.calls[n]? = some (.ok call) → call.Sound secrets asked world.table

/-- Both calls find nothing, the first stores the invite, and the second meets it. -/
def race (owner : Session) (room : Room) (createRequestId requestId : RequestId) : List Event :=
  [.storage (.insertSession owner 0), .storage (.insertRoom room.id room.code room.owner 0 room.expiresAt createRequestId 0),
    .createInvite 1 owner requestId (some 5) (.ok (some room)),
    .createInvite 2 owner requestId (some 7) (.ok (some room)), .run 1 ⟨"i_1", false⟩, .run 2 ⟨"i_2", false⟩,
    .run 1 ⟨"i_1", false⟩, .run 2 ⟨"i_2", false⟩, .run 2 ⟨"i_2", false⟩]

def answer (world : Inviting D) (n : Nat) : Option CreateInviteResponse :=
  match world.calls[n]? with
  | some (.ok { point := .returned (.ok response), .. }) => some response
  | _ => none

end Inviting

end P2PTransmission
