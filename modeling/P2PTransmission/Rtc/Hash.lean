import Mathlib.Data.List.Basic

/-!
# Incremental hashing

The digest function is a parameter: of a digest only the text is seen. A hasher is what it has absorbed, so that a
digest depends on the bytes alone and not on the pieces they came in.
-/

set_option autoImplicit false

namespace P2PTransmission.Rtc

abbrev Bytes : Type := List UInt8

class Blake3 where
  hash : Bytes → String

structure Hasher where
  bytes : Bytes := []
  deriving DecidableEq, Repr

namespace Hasher

def new : Hasher := {}

def update (hasher : Hasher) (input : Bytes) : Hasher := ⟨hasher.bytes ++ input⟩

def finalize [Blake3] (hasher : Hasher) : String := Blake3.hash hasher.bytes

@[simp] theorem bytes_new : new.bytes = [] := rfl

@[simp] theorem bytes_update (hasher : Hasher) (input : Bytes) : (hasher.update input).bytes = hasher.bytes ++ input := rfl

@[simp] theorem update_nil (hasher : Hasher) : hasher.update [] = hasher := by
  unfold update
  rw [List.append_nil]

theorem update_update (hasher : Hasher) (first second : Bytes) :
    (hasher.update first).update second = hasher.update (first ++ second) := by
  unfold update
  rw [List.append_assoc]

/-- The pieces do not matter. -/
theorem foldl_update (hasher : Hasher) (pieces : List Bytes) :
    pieces.foldl update hasher = hasher.update pieces.flatten := by
  induction pieces generalizing hasher with
  | nil => exact (update_nil hasher).symm
  | cons piece pieces ih => rw [List.foldl_cons, ih, update_update, List.flatten_cons]

end Hasher

end P2PTransmission.Rtc
