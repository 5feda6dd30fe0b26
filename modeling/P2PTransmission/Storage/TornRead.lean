import P2PTransmission.Storage.Serial

/-!
# Reads without a transaction

`findRoomByCode` issues its three `SELECT`s outside a transaction, so commands on the room may commit between them. The
result carries the revision of the first `SELECT`; it is that version exactly if the memberships that the second sees and
the join requests that the third sees are still the ones of that version (`torn_read_iff`). Otherwise the read is a
mixture of versions, or `Room.restore` refuses it.
-/

set_option autoImplicit false

namespace P2PTransmission

open Storage
open Room (ownerOne requestOne)

variable {code : RoomCode} {db db' first second third : Database} {room : Room} {roomId : String}

/-! ## Versions -/

/-- The rows of a room hold one value of its memberships. -/
theorem StoresMembers.unique {m m' : BTreeMap SessionId Membership} (h : StoresMembers db roomId m)
    (h' : StoresMembers db roomId m') : m = m' := by
  obtain ⟨snapshots, hread, hrestore⟩ := loadMembers_iff.mpr h
  obtain ⟨snapshots', hread', hrestore'⟩ := loadMembers_iff.mpr h'
  rw [hread] at hread'
  cases hread'
  rw [hrestore] at hrestore'
  exact Except.ok.inj hrestore'

theorem StoresRequests.unique {r r' : BTreeMap RequestId JoinRequest} (h : StoresRequests db roomId r)
    (h' : StoresRequests db roomId r') : r = r' := by
  have hsome : ∀ {a b : BTreeMap RequestId JoinRequest}, StoresRequests db roomId a → StoresRequests db roomId b →
      ∀ (q : RequestId) (request : JoinRequest), a[q]? = some request → b[q]? = some request := by
    intro a b ha hb q request hq
    obtain ⟨row, hrow, hholds⟩ := ha.stored q request hq
    obtain ⟨q', request', hq', hb'⟩ := hb.only q.value row hrow hholds.room
    have he : q = q' := Identifier.ext hq'
    subst he
    obtain ⟨row', hrow', hholds'⟩ := hb.stored q request' hb'
    rw [hrow] at hrow'
    cases hrow'
    have hsession : request.sessionId = request'.sessionId := Identifier.ext (hholds.session.symm.trans hholds'.session)
    have hstate := joinRequestStateText_injective (hholds.state.symm.trans hholds'.state)
    have hexpiry : request.expiresAt = request'.expiresAt := by
      have := hholds.expiresAt.symm.trans hholds'.expiresAt
      omega
    rw [hb']
    obtain ⟨s, e, t⟩ := request
    obtain ⟨s', e', t'⟩ := request'
    simp only at hsession hstate hexpiry
    rw [hsession, hstate, hexpiry]
  exact BTreeMap.ext_some fun q request => ⟨hsome h h' q request, hsome h' h q request⟩

/-- The committed revision never goes back, and while it stays no call has written. -/
theorem run_revision {es : List Returned} (h : Run (RoomSerial code) db es db') (hs : Sound db) {revision : Int}
    (hrevision : committedRevision db code = some revision) :
    ∃ revision', committedRevision db' code = some revision' ∧ revision ≤ revision' ∧
      (revision' = revision → db' = db) := by
  induction h generalizing revision with
  | nil => exact ⟨revision, hrevision, le_refl _, fun _ => rfl⟩
  | @cons d d₁ d' e es hstep _ ih =>
    have hs₁ := serial_sound hstep hs
    have hrespects := serial_respects hstep hs
    by_cases hchanged : Changed e
    · obtain ⟨r, hr, hr'⟩ := hrespects.changed hchanged
      rw [hrevision] at hr
      cases hr
      obtain ⟨revision', hrevision', hle, -⟩ := ih hs₁ hr'
      exact ⟨revision', hrevision', by omega, fun he => by omega⟩
    · have hsame : d₁ = d := by
        rcases serial_cases hstep with ⟨_, -, he⟩ | ⟨mutation, hok, hcall⟩
        · exact he
        · rcases applyRoomCommand_mutated hcall with ⟨-, he, -⟩ | ⟨houtcome, -⟩
          · exact he
          · exact absurd ⟨mutation, hok, houtcome⟩ hchanged
      rw [hsame] at ih
      exact ih hs hrevision

/-! ## The read -/

/-- The read returns the version of the room that is committed in one of the states passed. -/
def ReadsVersion (code : RoomCode) (first second third : Database) (es : List Returned) : Prop :=
  ∃ (version : Room) (pre post : List Returned) (d : Database), es = pre ++ post ∧ Run (RoomSerial code) first pre d ∧
    Run (RoomSerial code) d post third ∧ loadRoomOn d code = .ok (some version) ∧
    findRoomByCode first second third code = .ok (some version)

/-- **Reads that see one version.** A read between whose `SELECT`s the calls `es₁` and `es₂` returned gives a committed
version exactly if the second `SELECT` sees the memberships of the first version and the third sees its requests. If no
call took the id of another room, this is what the commands that were committed left of them. -/
theorem torn_read_iff {es₁ es₂ : List Returned} (hreach : Reachable first)
    (hload : loadRoomOn first code = .ok (some room)) (h₁ : Run (RoomSerial code) first es₁ second)
    (h₂ : Run (RoomSerial code) second es₂ third) :
    (ReadsVersion code first second third (es₁ ++ es₂) ↔
        StoresMembers second room.id.value room.memberships ∧ StoresRequests third room.id.value room.joinRequests) ∧
      (Run (guarded (RoomSerial code) (OwnIds code)) first es₁ second →
        Run (guarded (RoomSerial code) (OwnIds code)) second es₂ third →
        (ReadsVersion code first second third (es₁ ++ es₂) ↔
          (room.handleAll (changedCommands es₁)).memberships = room.memberships ∧
            (room.handleAll (changedCommands (es₁ ++ es₂))).joinRequests = room.joinRequests)) := by
  obtain ⟨hrow, hcode, -, -, hverified, hwithin⟩ := loadRoomAt_some.mp hload
  have hstored : ReadsVersion code first second third (es₁ ++ es₂) ↔
      StoresMembers second room.id.value room.memberships ∧ StoresRequests third room.id.value room.joinRequests := by
    constructor
    · rintro ⟨version, pre, post, d, -, hpre, -, hversion, hfind⟩
      -- the read carries the first revision, and the only version with that revision is the first
      obtain ⟨⟨row, hselect, hholds⟩, -, hmembers, hrequests, -⟩ := loadRoomAt_some.mp hfind
      obtain ⟨row', hselect', hholds'⟩ := hrow
      rw [hselect] at hselect'
      obtain ⟨-, rfl⟩ := Prod.mk.inj (Option.some.inj hselect')
      obtain ⟨revision', hrevision', -, hsame⟩ := run_revision hpre hreach.sound (committedRevision_of_load hload)
      rw [committedRevision_of_load hversion] at hrevision'
      cases hrevision'
      have hd : d = first := hsame (hholds.revision.symm.trans hholds'.revision)
      rw [hd, hload] at hversion
      cases hversion
      exact ⟨hmembers, hrequests⟩
    · rintro ⟨hmembers, hrequests⟩
      refine ⟨room, [], es₁ ++ es₂, first, rfl, .nil _, h₁.trans h₂, hload, ?_⟩
      exact loadRoomAt_some.mpr ⟨hrow, hcode, hmembers, hrequests, hverified, hwithin⟩
  refine ⟨hstored, fun hg₁ hg₂ => ?_⟩
  have hsecond := fold_of_ownIds hg₁ hreach.sound hload
  have hthird := fold_of_ownIds (hg₁.trans hg₂) hreach.sound hload
  obtain ⟨-, -, hmembers, -⟩ := loadRoomAt_some.mp hsecond
  obtain ⟨-, -, -, hrequests, -⟩ := loadRoomAt_some.mp hthird
  rw [(Room.handleAll_same room _).id] at hmembers hrequests
  rw [hstored]
  constructor
  · rintro ⟨hm, hr⟩
    exact ⟨hmembers.unique hm, hrequests.unique hr⟩
  · rintro ⟨hm, hr⟩
    rw [hm] at hmembers
    rw [hr] at hrequests
    exact ⟨hmembers, hrequests⟩

/-! ## A read during an approval -/

def peerOne : PeerId := .of "peer_1"

/-- The owner of the first room lets the guest in. -/
def approveCall : RoomCall :=
  { expectedRevision := none, command := .decideJoin ownerOne requestOne .approve 30, now := 30 }

/-- The owner of the first room connects. -/
def attachCall : RoomCall :=
  { expectedRevision := none, command := .attach ownerOne peerOne 30, now := 30 }

/-- The approval commits between the second and the third `SELECT`, and the read fails on a room that is stored well. -/
theorem torn_read_breaks : ∃ (es : List Returned) (third : Database), Reachable twoRooms ∧
    Run (RoomSerial codeOne) twoRooms es third ∧
    findRoomByCode twoRooms twoRooms third codeOne =
      .error (.corruptRoom (.invariant .approvedRequestWithoutMembership)) ∧
    ¬ ReadsVersion codeOne twoRooms twoRooms third ([] ++ es) := by
  have hfind : findRoomByCode twoRooms twoRooms (approveCall.body codeOne twoRooms).2 codeOne =
      .error (.corruptRoom (.invariant .approvedRequestWithoutMembership)) := by decide +kernel
  refine ⟨[(approveCall, (approveCall.body codeOne twoRooms).1)], _, twoRooms_reachable, .single .ran, hfind, ?_⟩
  rintro ⟨version, -, -, -, -, -, -, -, hversion⟩
  rw [hfind] at hversion
  cases hversion

/-- The owner connects between the same two, and the read gives the version before. -/
theorem torn_read_attach : ∃ (es : List Returned) (third : Database),
    Run (RoomSerial codeOne) twoRooms es third ∧ third ≠ twoRooms ∧
    ReadsVersion codeOne twoRooms twoRooms third ([] ++ es) := by
  obtain ⟨room, hload⟩ := waitingRoom_load
  have hstep : RoomSerial codeOne twoRooms (attachCall, (attachCall.body codeOne twoRooms).1)
      (attachCall.body codeOne twoRooms).2 := .ran
  have hown : OwnIds codeOne twoRooms (attachCall, (attachCall.body codeOne twoRooms).1) := by
    rintro - q s at' expiresAt row hcommand
    cases hcommand
  refine ⟨_, _, .single hstep, by decide +kernel, ?_⟩
  refine ((torn_read_iff twoRooms_reachable hload (.nil _) (.single hstep)).2 (.nil _) (.single ⟨hstep, hown⟩)).mpr ?_
  have hone : changedCommands [(attachCall, (attachCall.body codeOne twoRooms).1)] = [attachCall.command] := by
    decide +kernel
  refine ⟨rfl, ?_⟩
  rw [List.nil_append, hone]
  have hattach : ((room.handle attachCall.command).2).joinRequests = room.joinRequests := by
    rcases Room.handle_room room attachCall.command with h | ⟨next, heffect, h | h⟩
    · rw [h]
    · rw [h]; cases heffect; rfl
    · rw [h]; cases heffect; rfl
  exact hattach

end P2PTransmission
