import P2PTransmission.Rtc.SignalTasks
import P2PTransmission.Foundation.Run

/-!
# Orderly signalling

What a record of signalling should look like: a connection is described once by each side, whatever happens has its grounds
in what happened before, and the candidates of a connection follow its description in the order in which they were gathered
(`Orderly`). How many of those that were gathered before the description may be kept is a parameter.
-/

set_option autoImplicit false

namespace P2PTransmission.Rtc

open Wire (Signal)

/-- The signal describes a connection. -/
def describes : Signal → Bool
  | .offer _ | .answer _ => true
  | .iceCandidate _ _ _ => false

namespace Happening

def epoch? : Happening → Option Nat
  | opened epoch _ _ _ | gathered epoch _ | sent epoch _ _ _ | localDescribed epoch _ | remoteDescribed epoch _ _
  | candidateAdded epoch _ _ => some epoch
  | received _ _ _ => none

/-- The connection that the browser is asked about. -/
def connection? : Happening → Option ConnectionId
  | opened _ connection _ _ | localDescribed _ connection | remoteDescribed _ connection _ | candidateAdded _ connection _ =>
    some connection
  | received _ _ _ | gathered _ _ | sent _ _ _ _ => none

/-- The description of the connection is sent. -/
def announces (epoch : Nat) : Happening → Bool
  | sent epoch' _ _ signal => epoch' == epoch && describes signal
  | _ => false

/-- The connection is given the description of the other side. -/
def describesRemote (epoch : Nat) : Happening → Bool
  | remoteDescribed epoch' _ _ => epoch' == epoch
  | _ => false

def gatheredIn (epoch : Nat) : Happening → Option Signal
  | gathered epoch' candidate => if epoch' = epoch then some candidate else none
  | _ => none

def candidateSent (epoch : Nat) : Happening → Option Signal
  | sent epoch' _ _ signal => if epoch' = epoch ∧ describes signal = false then some signal else none
  | _ => none

/-- Nothing about the candidates of this connection that go out. -/
def quiet (epoch : Nat) : Happening → Prop
  | gathered epoch' _ | sent epoch' _ _ _ => epoch' ≠ epoch
  | _ => True

/-- Why something may happen. -/
def Grounds (record : List Happening) : Happening → Prop
  | opened epoch connection _ _ =>
    ∀ epoch' connection' target' negotiationId', opened epoch' connection' target' negotiationId' ∈ record →
      epoch' < epoch ∧ connection' ≠ connection
  | received _ _ _ => True
  | gathered epoch _ => ∃ connection target negotiationId, opened epoch connection target negotiationId ∈ record
  | sent epoch target negotiationId signal =>
    ∃ connection, opened epoch connection target negotiationId ∈ record ∧
      match signal with
      | .offer _ => localDescribed epoch connection ∈ record
      | .answer _ =>
        localDescribed epoch connection ∈ record ∧ ∃ offered, remoteDescribed epoch connection (.offer offered) ∈ record
      | .iceCandidate _ _ _ => localDescribed epoch connection ∈ record
  | localDescribed epoch connection => ∃ target negotiationId, opened epoch connection target negotiationId ∈ record
  | remoteDescribed epoch connection description =>
    ∃ target negotiationId, opened epoch connection target negotiationId ∈ record ∧
      received target negotiationId description ∈ record
  | candidateAdded epoch connection candidate =>
    ∃ target negotiationId, opened epoch connection target negotiationId ∈ record ∧
      received target negotiationId candidate ∈ record ∧
      ∃ description, remoteDescribed epoch connection description ∈ record

end Happening

open Happening

/-- Candidates are sent after the description: those of the ones gathered before it that were kept, then the others, each in the
order in which it was gathered. Without a description none is sent. -/
structure InOrder (kept : List Signal → List Signal) (epoch : Nat) (record : List Happening) : Prop where
  announced : ∀ before toPeerId negotiationId signal after,
    record = before ++ .sent epoch toPeerId negotiationId signal :: after → describes signal = true →
    before.filterMap (candidateSent epoch) = [] ∧
      after.filterMap (candidateSent epoch) = kept (before.filterMap (gatheredIn epoch)) ++ after.filterMap (gatheredIn epoch)
  unannounced : record.countP (announces epoch) = 0 → record.filterMap (candidateSent epoch) = []

/-- What a record of signalling should look like. -/
structure Orderly (kept : List Signal → List Signal) (record : List Happening) : Prop where
  oneRemote : ∀ epoch, record.countP (describesRemote epoch) ≤ 1
  oneDescription : ∀ epoch, record.countP (announces epoch) ≤ 1
  founded : Founded Grounds record
  inOrder : ∀ epoch, InOrder kept epoch record

/-! ## How the order is kept -/

section Order

variable {kept : List Signal → List Signal} {epoch : Nat} {record new : List Happening}

theorem announces_of_describes {toPeerId negotiationId : String} {signal : Signal} (h : describes signal = true) :
    announces epoch (.sent epoch toPeerId negotiationId signal) = true := by
  simp [announces, h]

theorem quiet_gatheredIn {h : Happening} (hquiet : h.quiet epoch) : gatheredIn epoch h = none := by
  cases h with
  | gathered epoch' candidate => exact if_neg hquiet
  | _ => rfl

theorem quiet_candidateSent {h : Happening} (hquiet : h.quiet epoch) : candidateSent epoch h = none := by
  cases h with
  | sent epoch' toPeerId negotiationId signal => exact if_neg fun hsame => hquiet hsame.1
  | _ => rfl

theorem quiet_announces {h : Happening} (hquiet : h.quiet epoch) : announces epoch h = false := by
  cases h with
  | sent epoch' toPeerId negotiationId signal =>
    have hne : epoch' ≠ epoch := hquiet
    simp [announces, hne]
  | _ => rfl

theorem InOrder.nil : InOrder kept epoch [] :=
  ⟨fun before _ _ _ after h => absurd h (by cases before <;> simp), fun _ => rfl⟩

theorem InOrder.quiet_snoc {h : Happening} (horder : InOrder kept epoch record) (hquiet : h.quiet epoch) :
    InOrder kept epoch (record ++ [h]) := by
  refine ⟨fun before toPeerId negotiationId signal after hsplit hsignal => ?_, fun hcount => ?_⟩
  · rcases snoc_split hsplit with ⟨-, -, rfl⟩ | ⟨rest, rfl, hrest⟩
    · exact absurd rfl hquiet
    · obtain ⟨hbefore, hafter⟩ := horder.announced before toPeerId negotiationId signal rest hrest hsignal
      refine ⟨hbefore, ?_⟩
      simp [hafter, quiet_gatheredIn hquiet, quiet_candidateSent hquiet]
  · rw [List.countP_append, List.countP_singleton, quiet_announces hquiet] at hcount
    simp [horder.unannounced (by simpa using hcount), quiet_candidateSent hquiet]

/-- What happens elsewhere does not matter. -/
theorem InOrder.quiet (horder : InOrder kept epoch record) (hnew : ∀ h ∈ new, h.quiet epoch) :
    InOrder kept epoch (record ++ new) := by
  induction new using List.reverseRecOn with
  | nil => rwa [List.append_nil]
  | append_singleton new last ih =>
    rw [← List.append_assoc]
    refine (ih fun h hin => hnew h (List.mem_append_left _ hin)).quiet_snoc ?_
    exact hnew last (List.mem_append_right _ (List.mem_singleton_self last))

/-- A candidate is gathered before the description. -/
theorem InOrder.gather {candidate : Signal} (horder : InOrder kept epoch record)
    (hnone : record.countP (announces epoch) = 0) : InOrder kept epoch (record ++ [.gathered epoch candidate]) := by
  refine ⟨fun before toPeerId negotiationId signal after hsplit hsignal => ?_, fun _ => ?_⟩
  · have hlate : (record ++ [Happening.gathered epoch candidate]).countP (announces epoch) = 0 := by
      simp [hnone, announces]
    rw [hsplit] at hlate
    simp [announces, hsignal] at hlate
  · simp [horder.unannounced hnone, candidateSent]

/-- A candidate is gathered after the description, and sent at once. -/
theorem InOrder.send {candidate : Signal} {target name : String} (horder : InOrder kept epoch record)
    (hcandidate : describes candidate = false) (hannounced : record.countP (announces epoch) ≠ 0) :
    InOrder kept epoch (record ++ [.gathered epoch candidate, .sent epoch target name candidate]) := by
  have hpair : record ++ [.gathered epoch candidate, .sent epoch target name candidate] =
      (record ++ [.gathered epoch candidate]) ++ [.sent epoch target name candidate] := by simp
  refine ⟨fun before toPeerId negotiationId signal after hsplit hsignal => ?_, fun hcount => ?_⟩
  · rw [hpair] at hsplit
    rcases snoc_split hsplit with ⟨-, -, hlast⟩ | ⟨rest, rfl, hrest⟩
    · cases hlast
      rw [hcandidate] at hsignal
      cases hsignal
    rcases snoc_split hrest with ⟨-, -, hlast⟩ | ⟨middle, rfl, hmiddle⟩
    · cases hlast
    obtain ⟨hbefore, hafter⟩ := horder.announced before toPeerId negotiationId signal middle hmiddle hsignal
    refine ⟨hbefore, ?_⟩
    have hsent : candidateSent epoch (.sent epoch target name candidate) = some candidate := if_pos ⟨rfl, hcandidate⟩
    have hgathered : gatheredIn epoch (.gathered epoch candidate) = some candidate := if_pos rfl
    have hother : candidateSent epoch (.gathered epoch candidate) = none := rfl
    have hnot : gatheredIn epoch (.sent epoch target name candidate) = none := rfl
    simp [hafter, hsent, hgathered, hother, hnot]
  · rw [List.countP_append] at hcount
    omega

/-- The description is sent, and after it the candidates that were kept. -/
theorem InOrder.announce {target name : String} {signal : Signal} {candidates : List Signal}
    (horder : InOrder kept epoch record) (hsignal : describes signal = true)
    (hcandidates : ∀ candidate ∈ candidates, describes candidate = false)
    (hnone : record.countP (announces epoch) = 0) (hkept : candidates = kept (record.filterMap (gatheredIn epoch))) :
    InOrder kept epoch (record ++ .sent epoch target name signal :: candidates.map (.sent epoch target name ·)) := by
  have hsent : (candidates.map (Happening.sent epoch target name ·)).filterMap (candidateSent epoch) = candidates := by
    rw [List.filterMap_map]
    refine (List.filterMap_congr fun candidate hin => ?_).trans List.filterMap_some
    simp [candidateSent, hcandidates candidate hin]
  have hgathered : (candidates.map (Happening.sent epoch target name ·)).filterMap (gatheredIn epoch) = [] := by
    simp [List.filterMap_map, gatheredIn, Function.comp_def]
  refine ⟨fun before toPeerId negotiationId other after hsplit hother => ?_, fun hcount => ?_⟩
  · -- the description that is sent now is the only one
    rcases List.append_eq_append_iff.mp hsplit with ⟨between, rfl, hrest⟩ | ⟨between, rfl, hrest⟩
    · cases between with
      | nil =>
        cases hrest
        rw [List.append_nil, hsent, hgathered, List.append_nil]
        exact ⟨horder.unannounced hnone, hkept⟩
      | cons first between =>
        rw [List.cons_append] at hrest
        have hin : Happening.sent epoch toPeerId negotiationId other ∈ candidates.map (Happening.sent epoch target name ·) := by
          rw [(List.cons.inj hrest).2]
          simp
        obtain ⟨candidate, hcandidate, hsame⟩ := List.mem_map.mp hin
        cases hsame
        rw [hcandidates _ hcandidate] at hother
        cases hother
    · cases between with
      | nil =>
        rw [List.nil_append] at hrest
        cases hrest
        rw [List.append_nil] at hnone horder hkept
        rw [hsent, hgathered, List.append_nil]
        exact ⟨horder.unannounced hnone, hkept⟩
      | cons first between =>
        cases hrest
        simp [announces, hother] at hnone
  · simp [announces, hsignal] at hcount

/-- Where all candidates are kept, all are sent once the description is. -/
theorem InOrder.complete (horder : InOrder id epoch record) (hannounced : record.countP (announces epoch) ≠ 0) :
    record.filterMap (candidateSent epoch) = record.filterMap (gatheredIn epoch) := by
  obtain ⟨description, hin, hdescription⟩ := List.countP_pos_iff.mp (Nat.pos_of_ne_zero hannounced)
  obtain ⟨before, after, rfl⟩ := List.append_of_mem hin
  cases description with
  | sent epoch' toPeerId negotiationId signal =>
    rw [announces, Bool.and_eq_true, beq_iff_eq] at hdescription
    obtain ⟨rfl, hsignal⟩ := hdescription
    obtain ⟨hbefore, hafter⟩ := horder.announced before toPeerId negotiationId signal after rfl hsignal
    have hnone : candidateSent epoch' (.sent epoch' toPeerId negotiationId signal) = none :=
      if_neg fun hcandidate => by rw [hsignal] at hcandidate; cases hcandidate.2
    have hnot : gatheredIn epoch' (.sent epoch' toPeerId negotiationId signal) = none := rfl
    rw [List.filterMap_append, List.filterMap_append, hbefore, List.filterMap_cons_none hnone, List.filterMap_cons_none hnot,
      hafter]
    rfl
  | _ => cases hdescription

end Order

end P2PTransmission.Rtc
