import P2PTransmission.Rtc.Plan

/-!
# A plan tiles its file

The parts of a plan follow each other without a gap and without an overlap, from the beginning of the file to its end, and the
one that ends there says so. The arithmetic is that of `u64` and `u32`: an operation that overflows, or a cast that loses
digits, would give no result (`exactPart`), and there is none.
-/

set_option autoImplicit false

namespace P2PTransmission.Rtc

def U32_MAX : Nat := 2 ^ 32 - 1

/-! ## The arithmetic of the machine -/

/-- `as u32`, where it loses nothing. -/
def exactU32 (n : Nat) : Option Nat := if n ≤ U32_MAX then some n else none

def exactPartCount (totalBytes partBytes : Nat) : Option Nat :=
  if totalBytes = 0 then some 0 else (checkedSub totalBytes 1).bind fun last => checkedAdd (last / partBytes) 1

/-- The part with every operation checked: there is no outer value if one of them overflows. -/
def exactPart (totalBytes partBytes index : Nat) : Option (Option PartDescriptor) :=
  (exactPartCount totalBytes partBytes).bind fun count =>
    if count ≤ index then some none
    else
      match checkedMul index partBytes with
      | none => some none
      | some offset =>
        match checkedSub totalBytes offset with
        | none => some none
        | some remaining =>
          (exactU32 (min remaining partBytes)).bind fun length => (checkedAdd index 1).map fun next =>
            some { index, offset, length, isLast := next == count }

variable {totalBytes partBytes index : Nat}

theorem partCount_le (hpart : 0 < partBytes) : partCount totalBytes partBytes ≤ totalBytes := by
  unfold partCount
  by_cases hzero : totalBytes = 0
  · rw [if_pos hzero]
    exact Nat.zero_le _
  · rw [if_neg hzero]
    have hdiv : (totalBytes - 1) / partBytes ≤ totalBytes - 1 := Nat.div_le_self _ _
    omega

theorem exactPartCount_eq (hpart : 0 < partBytes) (hfits : totalBytes ≤ U64_MAX) :
    exactPartCount totalBytes partBytes = some (partCount totalBytes partBytes) := by
  have hle : partCount totalBytes partBytes ≤ totalBytes := partCount_le hpart
  unfold exactPartCount
  unfold partCount at hle ⊢
  by_cases hzero : totalBytes = 0
  · rw [if_pos hzero, if_pos hzero]
  · rw [if_neg hzero] at hle ⊢
    rw [if_neg hzero, checkedSub_eq (by omega), Option.bind_some, checkedAdd_eq (by omega)]

/-- **No operation overflows.** -/
theorem exactPart_eq (hpart : 0 < partBytes) (hwidth : partBytes ≤ U32_MAX) (hfits : totalBytes ≤ U64_MAX) (index : Nat) :
    exactPart totalBytes partBytes index = some (part totalBytes partBytes index) := by
  unfold exactPart
  rw [exactPartCount_eq hpart hfits, Option.bind_some]
  by_cases hend : partCount totalBytes partBytes ≤ index
  · rw [if_pos hend, part_none hend]
  · rw [if_neg hend]
    have hstart : index * partBytes < totalBytes := (lt_partCount hpart).mp (by omega)
    have hle : partCount totalBytes partBytes ≤ totalBytes := partCount_le hpart
    rw [part_eq hpart hfits hstart, checkedMul_eq (by omega)]
    dsimp only
    rw [checkedSub_eq (by omega)]
    dsimp only
    have hlength : exactU32 (min (totalBytes - index * partBytes) partBytes) =
        some (min (totalBytes - index * partBytes) partBytes) := if_pos (by omega)
    rw [hlength, Option.bind_some, checkedAdd_eq (by omega), Option.map_some]

/-! ## Tilings -/

/-- The positions of the file that a part holds. -/
def PartDescriptor.positions (part : PartDescriptor) : List Nat := List.range' part.offset part.length

/-- The parts at the indices below the count cut the file into pieces of the given size at most. -/
structure Tiles (plan : Nat → Option PartDescriptor) (count totalBytes partBytes : Nat) : Prop where
  returned : ∀ index < count, ∃ part, plan index = some part ∧ part.index = index ∧ 0 < part.length ∧ part.length ≤ partBytes
  ended : ∀ index, count ≤ index → plan index = none
  adjacent : ∀ index part next, plan index = some part → plan (index + 1) = some next →
    next.offset = part.offset + part.length
  disjoint : ∀ index other part next, index ≠ other → plan index = some part → plan other = some next →
    List.Disjoint part.positions next.positions
  whole : ((List.range count).flatMap fun index => (plan index).elim [] PartDescriptor.positions) = List.range totalBytes
  last : ∀ index part, plan index = some part → (part.isLast = true ↔ part.offset + part.length = totalBytes)
  onlyLast : 0 < totalBytes → ∃! index, ∃ part, plan index = some part ∧ part.isLast = true

/-- What there is to say of a part. -/
theorem part_some (hpart : 0 < partBytes) (hfits : totalBytes ≤ U64_MAX) {descriptor : PartDescriptor}
    (h : part totalBytes partBytes index = some descriptor) :
    index * partBytes < totalBytes ∧ descriptor.index = index ∧ descriptor.offset = index * partBytes ∧
      descriptor.length = min (totalBytes - index * partBytes) partBytes ∧
      (descriptor.isLast = true ↔ totalBytes ≤ (index + 1) * partBytes) := by
  by_cases hstart : index * partBytes < totalBytes
  · rw [part_eq hpart hfits hstart] at h
    cases h
    refine ⟨hstart, rfl, rfl, rfl, ?_⟩
    have hindex : index < partCount totalBytes partBytes := (lt_partCount hpart).mpr hstart
    have hnext : index + 1 < partCount totalBytes partBytes ↔ (index + 1) * partBytes < totalBytes := lt_partCount hpart
    show (index + 1 == partCount totalBytes partBytes) = true ↔ _
    rw [beq_iff_eq]
    omega
  · have hend : partCount totalBytes partBytes ≤ index := by
      rw [← Nat.not_lt]
      exact fun hlt => hstart ((lt_partCount hpart).mp hlt)
    rw [part_none hend] at h
    cases h

/-- The first parts hold the positions up to their end. -/
theorem flatMap_positions (hpart : 0 < partBytes) (hfits : totalBytes ≤ U64_MAX) (count : Nat)
    (hcount : count ≤ partCount totalBytes partBytes) :
    ((List.range count).flatMap fun index => (part totalBytes partBytes index).elim [] PartDescriptor.positions) =
      List.range (min (count * partBytes) totalBytes) := by
  induction count with
  | zero => simp
  | succ count ih =>
    have hstart : count * partBytes < totalBytes := (lt_partCount hpart).mp hcount
    have hend : min ((count + 1) * partBytes) totalBytes =
        count * partBytes + min (totalBytes - count * partBytes) partBytes := by
      rw [Nat.succ_mul]
      omega
    rw [List.range_succ, List.flatMap_append, ih (by omega), List.flatMap_singleton, part_eq hpart hfits hstart,
      Nat.min_eq_left (by omega), hend]
    show List.range (count * partBytes) ++ List.range' (count * partBytes) _ = _
    rw [List.range_eq_range', List.range_eq_range', ← List.range'_append_1, Nat.zero_add]

theorem partCount_mul (hpart : 0 < partBytes) : totalBytes ≤ partCount totalBytes partBytes * partBytes := by
  rw [← Nat.not_lt]
  intro hlt
  exact absurd ((lt_partCount hpart).mpr hlt) (Nat.lt_irrefl _)

theorem part_tiles (hpart : 0 < partBytes) (hfits : totalBytes ≤ U64_MAX) :
    Tiles (part totalBytes partBytes) (partCount totalBytes partBytes) totalBytes partBytes where
  returned index hindex := by
    have hstart : index * partBytes < totalBytes := (lt_partCount hpart).mp hindex
    refine ⟨_, part_eq hpart hfits hstart, rfl, ?_, ?_⟩
    · show 0 < min (totalBytes - index * partBytes) partBytes
      omega
    · exact Nat.min_le_right _ _
  ended index hend := part_none hend
  adjacent index descriptor next h hnext := by
    obtain ⟨hstart, -, hoffset, hlength, -⟩ := part_some hpart hfits h
    obtain ⟨hstart', -, hoffset', -, -⟩ := part_some hpart hfits hnext
    rw [Nat.succ_mul] at hstart' hoffset'
    omega
  disjoint index other descriptor next hne h hnext := by
    obtain ⟨-, -, hoffset, hlength, -⟩ := part_some hpart hfits h
    obtain ⟨-, -, hoffset', hlength', -⟩ := part_some hpart hfits hnext
    intro x hx hx'
    rw [PartDescriptor.positions, List.mem_range'_1] at hx hx'
    -- the one with the lower index ends where the next one begins, at the latest
    rcases Nat.lt_or_gt_of_ne hne with hlt | hlt
    · have hmul : (index + 1) * partBytes ≤ other * partBytes := Nat.mul_le_mul_right _ hlt
      rw [Nat.succ_mul] at hmul
      omega
    · have hmul : (other + 1) * partBytes ≤ index * partBytes := Nat.mul_le_mul_right _ hlt
      rw [Nat.succ_mul] at hmul
      omega
  whole := by
    rw [flatMap_positions hpart hfits _ (Nat.le_refl _), Nat.min_eq_right (partCount_mul hpart)]
  last index descriptor h := by
    obtain ⟨hstart, -, hoffset, hlength, hlast⟩ := part_some hpart hfits h
    rw [hlast, Nat.succ_mul]
    omega
  onlyLast htotal := by
    have hcount : 0 < partCount totalBytes partBytes := (lt_partCount hpart).mpr (by omega)
    have hmul : totalBytes ≤ partCount totalBytes partBytes * partBytes := partCount_mul hpart
    obtain ⟨count, hsucc⟩ : ∃ count, partCount totalBytes partBytes = count + 1 := ⟨_, (Nat.succ_pred_eq_of_pos hcount).symm⟩
    have hstart : count * partBytes < totalBytes := (lt_partCount hpart).mp (by omega)
    refine ⟨count, ⟨_, part_eq hpart hfits hstart, ?_⟩, ?_⟩
    · show (count + 1 == partCount totalBytes partBytes) = true
      rw [hsucc, beq_self_eq_true]
    · rintro index ⟨descriptor, h, hlast⟩
      obtain ⟨hindex, -, -, -, hiff⟩ := part_some hpart hfits h
      have hle : totalBytes ≤ (index + 1) * partBytes := hiff.mp hlast
      have hlt : index < partCount totalBytes partBytes := (lt_partCount hpart).mpr hindex
      have hnot : ¬index + 1 < partCount totalBytes partBytes := fun hnext => by
        have := (lt_partCount hpart).mp hnext
        omega
      omega

/-- **The plans of chunks and of segments tile the file**, and none of their operations overflows. -/
theorem plans_tile (totalBytes partBytes : Nat) (hpart : 1 ≤ partBytes) (hwidth : partBytes ≤ U32_MAX)
    (hfits : totalBytes ≤ U64_MAX) :
    (∃ plan, ChunkPlan.new totalBytes partBytes = .ok plan ∧
      Tiles plan.chunk plan.chunkCount totalBytes partBytes ∧
      exactPartCount totalBytes partBytes = some plan.chunkCount ∧
      ∀ index, exactPart totalBytes partBytes index = some (plan.chunk index)) ∧
    ∃ plan, SegmentPlan.new totalBytes partBytes = .ok plan ∧
      Tiles plan.segment plan.segmentCount totalBytes partBytes ∧
      exactPartCount totalBytes partBytes = some plan.segmentCount ∧
      ∀ index, exactPart totalBytes partBytes index = some (plan.segment index) := by
  have hne : partBytes ≠ 0 := by omega
  refine ⟨⟨⟨totalBytes, partBytes⟩, if_neg hne, ?_⟩, ⟨totalBytes, partBytes⟩, if_neg hne, ?_⟩
  · exact ⟨part_tiles hpart hfits, exactPartCount_eq hpart hfits, exactPart_eq hpart hwidth hfits⟩
  · exact ⟨part_tiles hpart hfits, exactPartCount_eq hpart hfits, exactPart_eq hpart hwidth hfits⟩

theorem full_width_plans_tile :
    Tiles (ChunkPlan.chunk ⟨U64_MAX, 32768⟩) (ChunkPlan.chunkCount ⟨U64_MAX, 32768⟩) U64_MAX 32768 := by
  obtain ⟨⟨plan, hplan, htiles, -⟩, -⟩ := plans_tile U64_MAX 32768 (by decide) (by decide) (Nat.le_refl _)
  cases hplan
  exact htiles

/-- An empty file has no part, and so no last one. -/
theorem empty_plan_has_no_last :
    ¬∃! index, index < ChunkPlan.chunkCount ⟨0, 1⟩ ∧ ∃ part, ChunkPlan.chunk ⟨0, 1⟩ index = some part ∧ part.isLast = true := by
  rintro ⟨index, ⟨hlt, -⟩, -⟩
  exact absurd hlt (Nat.not_lt_zero index)

end P2PTransmission.Rtc
