import P2PTransmission.Domain.Ids

/-!
# Chunk and segment plans

A file is cut into parts of one size, the last of which may be shorter. The plan of the chunks and the plan of the
segments are the same plan, with another part size.

Offsets and sizes are `u64` in the source. Its checked and saturating operations are the ones below; the others never
leave the range.
-/

set_option autoImplicit false

namespace P2PTransmission.Rtc

def checkedAdd (a b : Nat) : Option Nat := if a + b ≤ U64_MAX then some (a + b) else none

def checkedMul (a b : Nat) : Option Nat := if a * b ≤ U64_MAX then some (a * b) else none

def checkedSub (a b : Nat) : Option Nat := if b ≤ a then some (a - b) else none

def saturatingAdd (a b : Nat) : Nat := min (a + b) U64_MAX

theorem checkedAdd_eq {a b : Nat} (h : a + b ≤ U64_MAX) : checkedAdd a b = some (a + b) := if_pos h

theorem checkedMul_eq {a b : Nat} (h : a * b ≤ U64_MAX) : checkedMul a b = some (a * b) := if_pos h

theorem checkedSub_eq {a b : Nat} (h : b ≤ a) : checkedSub a b = some (a - b) := if_pos h

theorem saturatingAdd_eq {a b : Nat} (h : a + b ≤ U64_MAX) : saturatingAdd a b = a + b := Nat.min_eq_left h

theorem saturatingAdd_min {a b c : Nat} (hc : c ≤ U64_MAX) : min (saturatingAdd a b) c = min (a + b) c := by
  unfold saturatingAdd
  omega

inductive TransferPlanError
  | zeroChunkSize | zeroSegmentSize
  deriving DecidableEq, Repr

/-- One part of a file. -/
structure PartDescriptor where
  index : Nat
  offset : Nat
  length : Nat
  isLast : Bool
  deriving DecidableEq, Repr

/-- The number of parts of the given size. -/
def partCount (totalBytes partBytes : Nat) : Nat :=
  if totalBytes = 0 then 0 else (totalBytes - 1) / partBytes + 1

def part (totalBytes partBytes index : Nat) : Option PartDescriptor :=
  if partCount totalBytes partBytes ≤ index then none
  else
    (checkedMul index partBytes).bind fun offset => (checkedSub totalBytes offset).map fun remaining =>
      { index, offset, length := min remaining partBytes, isLast := index + 1 == partCount totalBytes partBytes }

structure ChunkPlan where
  totalBytes : Nat
  chunkBytes : Nat
  deriving DecidableEq, Repr

namespace ChunkPlan

def new (totalBytes chunkBytes : Nat) : Except TransferPlanError ChunkPlan :=
  if chunkBytes = 0 then .error .zeroChunkSize else .ok { totalBytes, chunkBytes }

def chunkCount (plan : ChunkPlan) : Nat := partCount plan.totalBytes plan.chunkBytes

def chunk (plan : ChunkPlan) (index : Nat) : Option PartDescriptor := part plan.totalBytes plan.chunkBytes index

end ChunkPlan

structure SegmentPlan where
  totalBytes : Nat
  segmentBytes : Nat
  deriving DecidableEq, Repr

namespace SegmentPlan

def new (totalBytes segmentBytes : Nat) : Except TransferPlanError SegmentPlan :=
  if segmentBytes = 0 then .error .zeroSegmentSize else .ok { totalBytes, segmentBytes }

def segmentCount (plan : SegmentPlan) : Nat := partCount plan.totalBytes plan.segmentBytes

def segment (plan : SegmentPlan) (index : Nat) : Option PartDescriptor := part plan.totalBytes plan.segmentBytes index

end SegmentPlan

/-! ## Where a part lies -/

variable {totalBytes partBytes index : Nat}

/-- A part begins inside the file if its number is below the count. -/
theorem lt_partCount (hpart : 0 < partBytes) :
    index < partCount totalBytes partBytes ↔ index * partBytes < totalBytes := by
  unfold partCount
  split
  · rename_i hzero
    omega
  · rw [Nat.lt_succ_iff, Nat.le_div_iff_mul_le hpart]
    omega

theorem part_eq (hpart : 0 < partBytes) (hfits : totalBytes ≤ U64_MAX) (h : index * partBytes < totalBytes) :
    part totalBytes partBytes index = some
      { index, offset := index * partBytes, length := min (totalBytes - index * partBytes) partBytes,
        isLast := index + 1 == partCount totalBytes partBytes } := by
  unfold part
  rw [if_neg (by rw [Nat.not_le]; exact (lt_partCount hpart).mpr h), checkedMul_eq (by omega)]
  show (checkedSub totalBytes (index * partBytes)).map _ = _
  rw [checkedSub_eq (by omega)]
  rfl

theorem part_none (h : partCount totalBytes partBytes ≤ index) : part totalBytes partBytes index = none := if_pos h

end P2PTransmission.Rtc
