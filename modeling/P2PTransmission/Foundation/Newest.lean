import Mathlib.Data.List.Sort
import Mathlib.Data.List.Nodup

/-!
# Keeping the last items by their order

A collection grows at its end, and all but `limit` items are dropped. Which items are dropped is decided by their order and
not by their age: those behind the first `limit` ones of the descending order go. What is left is the last `limit` items
exactly when each of these is greater than every item before them (`filter_surplus_iff`).
-/

set_option autoImplicit false

namespace P2PTransmission.Newest

variable {α : Type} [LinearOrder α]

/-- What is behind the first `limit` items in descending order. -/
def surplus (limit : Nat) (items : List α) : List α := (items.insertionSort (· ≥ ·)).drop limit

/-- How many of the items are too many. -/
def excess (limit : Nat) (items : List α) : Nat := items.length - limit

variable {limit : Nat} {items : List α}

/-- An item is dropped or among the first ones, and then it is not less than any that is dropped. -/
theorem mem_cases {item : α} (h : item ∈ items) :
    item ∈ surplus limit items ∨ ∀ other ∈ surplus limit items, other ≤ item := by
  have hsorted := List.pairwise_insertionSort (· ≥ ·) items
  rw [← List.take_append_drop limit (items.insertionSort (· ≥ ·)), List.pairwise_append] at hsorted
  have hmem := (List.mem_insertionSort (· ≥ ·)).mpr h
  rw [← List.take_append_drop limit (items.insertionSort (· ≥ ·)), List.mem_append] at hmem
  rcases hmem with hmem | hmem
  · exact .inr fun other hother => hsorted.2.2 item hmem other hother
  · exact .inl hmem

theorem disjoint_excess (h : items.Nodup) :
    ∀ item ∈ items.take (excess limit items), item ∉ items.drop (excess limit items) := by
  intro item htake hdrop
  rw [← List.take_append_drop (excess limit items) items, List.nodup_append] at h
  exact h.2.2 item htake item hdrop rfl

/-- If the last items are the greatest, they come first in descending order. -/
theorem insertionSort_of (h : ∀ older ∈ items.take (excess limit items), ∀ newer ∈ items.drop (excess limit items),
    older < newer) : items.insertionSort (· ≥ ·) =
      (items.drop (excess limit items)).insertionSort (· ≥ ·) ++
        (items.take (excess limit items)).insertionSort (· ≥ ·) := by
  refine List.Perm.eq_of_pairwise' (List.pairwise_insertionSort _ _) ?_ ?_
  · rw [List.pairwise_append]
    refine ⟨List.pairwise_insertionSort _ _, List.pairwise_insertionSort _ _, fun newer hnewer older holder => ?_⟩
    exact (h older ((List.mem_insertionSort _).mp holder) newer ((List.mem_insertionSort _).mp hnewer)).le
  · have hparts := (List.perm_insertionSort (· ≥ ·) (items.drop (excess limit items))).append
      (List.perm_insertionSort (· ≥ ·) (items.take (excess limit items)))
    calc (items.insertionSort (· ≥ ·)).Perm items := List.perm_insertionSort _ _
      _ = items.take (excess limit items) ++ items.drop (excess limit items) := (List.take_append_drop _ _).symm
      List.Perm _ (items.drop (excess limit items) ++ items.take (excess limit items)) := List.perm_append_comm
      List.Perm _ _ := hparts.symm

/-- If the last items are the greatest, the ones before them are dropped. -/
theorem surplus_of (h : ∀ older ∈ items.take (excess limit items), ∀ newer ∈ items.drop (excess limit items),
    older < newer) : surplus limit items = (items.take (excess limit items)).insertionSort (· ≥ ·) := by
  by_cases hfew : items.length ≤ limit
  · have hnone : excess limit items = 0 := Nat.sub_eq_zero_of_le hfew
    rw [hnone, surplus, List.drop_of_length_le (by rwa [List.length_insertionSort])]
    rfl
  · have hlength : ((items.drop (excess limit items)).insertionSort (· ≥ ·)).length = limit := by
      rw [List.length_insertionSort, List.length_drop, excess]
      omega
    rw [surplus, insertionSort_of h, List.drop_left' hlength]

variable (limit) in
/-- **The last items are left exactly if each of them is greater than all before.** -/
theorem filter_surplus_iff (hnodup : items.Nodup) :
    items.filter (fun item => item ∉ surplus limit items) = items.drop (excess limit items) ↔
      ∀ older ∈ items.take (excess limit items), ∀ newer ∈ items.drop (excess limit items), older < newer := by
  have hdisjoint : ∀ item ∈ items.take (excess limit items), item ∉ items.drop (excess limit items) :=
    disjoint_excess hnodup
  constructor
  · intro hleft older holder newer hnewer
    have hkept : newer ∉ surplus limit items := by
      rw [← hleft] at hnewer
      simpa using (List.mem_filter.mp hnewer).2
    have hdropped : older ∈ surplus limit items := by
      by_contra hnot
      have hmem : older ∈ items.filter fun item => item ∉ surplus limit items :=
        List.mem_filter.mpr ⟨List.mem_of_mem_take holder, by simpa using hnot⟩
      rw [hleft] at hmem
      exact hdisjoint older holder hmem
    rcases mem_cases (List.mem_of_mem_drop hnewer) with hsurplus | hgreatest
    · exact absurd hsurplus hkept
    · refine lt_of_le_of_ne (hgreatest older hdropped) ?_
      rintro rfl
      exact hdisjoint older holder hnewer
  · intro h
    have hsurplus : ∀ item, item ∈ surplus limit items ↔ item ∈ items.take (excess limit items) := fun item => by
      rw [surplus_of h, List.mem_insertionSort]
    have htake : (items.take (excess limit items)).filter (fun item => item ∉ surplus limit items) = [] := by
      rw [List.filter_eq_nil_iff]
      intro item hitem
      simpa using (hsurplus item).mpr hitem
    have hdrop : (items.drop (excess limit items)).filter (fun item => item ∉ surplus limit items) =
        items.drop (excess limit items) := by
      rw [List.filter_eq_self]
      intro item hitem
      simpa using fun hmem => hdisjoint item ((hsurplus item).mp hmem) hitem
    calc _ = (items.take (excess limit items) ++ items.drop (excess limit items)).filter
            (fun item => item ∉ surplus limit items) := by rw [List.take_append_drop]
      _ = _ := by rw [List.filter_append, htake, hdrop, List.nil_append]

end P2PTransmission.Newest
