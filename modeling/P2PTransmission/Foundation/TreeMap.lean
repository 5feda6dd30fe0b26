import Std.Data.ExtTreeMap

/-!
# Sorted maps

`BTreeMap K V` is the extensional tree map of the standard library, ordered by the `Ord` instance of its keys: two maps
are equal as soon as they give the same value at every key, and `toList` lists the entries in key order.

The lemmas turn the traversals of a map (`any`, `find?` of its entries, `map` of its values) into statements about
`m[k]?`, which is what every invariant of a program that keeps its state in maps is about.
-/

set_option autoImplicit false

namespace P2PTransmission

/-- A map sorted by its keys. -/
abbrev BTreeMap (K V : Type) [Ord K] : Type := Std.ExtTreeMap K V compare

namespace BTreeMap

variable {K V W : Type} [Ord K] [Std.TransOrd K] [Std.LawfulEqOrd K] {m : BTreeMap K V}

theorem mem_toList {k : K} {v : V} : (k, v) ∈ m.toList ↔ m[k]? = some v :=
  Std.ExtTreeMap.mem_toList_iff_getElem?_eq_some

theorem getElem?_insert_of_ne {a k : K} {v : V} (h : k ≠ a) : (m.insert k v)[a]? = m[a]? := by
  rw [Std.ExtTreeMap.getElem?_insert, if_neg (fun e => h (Std.LawfulEqOrd.eq_of_compare e))]

theorem getElem?_insert [DecidableEq K] (a k : K) (v : V) :
    (m.insert k v)[a]? = if k = a then some v else m[a]? := by
  simp only [Std.ExtTreeMap.getElem?_insert, Std.LawfulEqCmp.compare_eq_iff_eq]

theorem getElem?_erase [DecidableEq K] (a k : K) : (m.erase k)[a]? = if k = a then none else m[a]? := by
  simp only [Std.ExtTreeMap.getElem?_erase, Std.LawfulEqCmp.compare_eq_iff_eq]

/-- Writing the value that is already there changes nothing. -/
theorem insert_eq_self {k : K} {v : V} (h : m[k]? = some v) : m.insert k v = m := by
  refine Std.ExtTreeMap.ext_getElem? fun a => ?_
  rw [Std.ExtTreeMap.getElem?_insert]
  split
  · rename_i e
    rw [← Std.LawfulEqOrd.eq_of_compare e, h]
  · rfl

/-- A test of some entry of the map. -/
theorem any_toList {p : K → V → Bool} :
    (m.toList.any fun e => p e.1 e.2) = true ↔ ∃ k v, m[k]? = some v ∧ p k v = true := by
  rw [List.any_eq_true]
  constructor
  · rintro ⟨⟨k, v⟩, hm, hp⟩
    exact ⟨k, v, mem_toList.mp hm, hp⟩
  · rintro ⟨k, v, hm, hp⟩
    exact ⟨(k, v), mem_toList.mpr hm, hp⟩

theorem any_toList_eq_false {p : K → V → Bool} :
    (m.toList.any fun e => p e.1 e.2) = false ↔ ∀ k v, m[k]? = some v → p k v = false := by
  constructor
  · intro h k v hk
    cases hp : p k v with
    | false => rfl
    | true => rw [any_toList.mpr ⟨k, v, hk, hp⟩] at h; cases h
  · intro h
    rw [Bool.eq_false_iff]
    intro hany
    obtain ⟨k, v, hk, hp⟩ := any_toList.mp hany
    rw [h k v hk] at hp
    cases hp

/-- The first entry that passes a test is an entry of the map and passes it. -/
theorem find?_toList_some {p : K × V → Bool} {e : K × V} (h : m.toList.find? p = some e) :
    m[e.1]? = some e.2 ∧ p e = true :=
  ⟨mem_toList.mp (List.mem_of_find?_eq_some h), List.find?_some h⟩

/-- No entry passes the test when none is found. -/
theorem find?_toList_none {p : K × V → Bool} (h : m.toList.find? p = none) {k : K} {v : V} (hk : m[k]? = some v) :
    p (k, v) = false := by
  have := List.find?_eq_none.mp h (k, v) (mem_toList.mpr hk)
  simpa using this

theorem getElem?_map_values {f : V → W} {k : K} : (m.map fun _ v => f v)[k]? = m[k]?.map f :=
  Std.ExtTreeMap.getElem?_map

/-- Equality from the entries of one side: every entry of the other is there, and there are no more. -/
theorem ext_some {m' : BTreeMap K V} (h : ∀ (k : K) (v : V), m[k]? = some v ↔ m'[k]? = some v) : m = m' :=
  Std.ExtTreeMap.ext_getElem? fun {k} => Option.ext (h k)

/-! ## Collecting a list into a map -/

section Collect

variable {α ε : Type} (key : α → K) (value : α → V) (check : α → Except ε Unit) (duplicate : K → ε)

/-- Insert the items of a list one by one, stopping at the first that fails its check or repeats a key. -/
def collect : List α → BTreeMap K V → Except ε (BTreeMap K V)
  | [], m => .ok m
  | a :: items, m => do
    check a
    if m.contains (key a) then .error (duplicate (key a))
    else collect items (m.insert (key a) (value a))

variable {key value check duplicate}

omit [Std.LawfulEqOrd K] in
theorem collect_cons {a : α} {items : List α} {m m' : BTreeMap K V}
    (h : collect key value check duplicate (a :: items) m = .ok m') :
    check a = .ok () ∧ m[key a]? = none ∧
      collect key value check duplicate items (m.insert (key a) (value a)) = .ok m' := by
  simp only [collect] at h
  cases hc : check a with
  | error e => rw [hc] at h; cases h
  | ok u =>
    rw [hc] at h
    simp only [bind, Except.bind] at h
    split at h
    · cases h
    · rename_i hk
      refine ⟨rfl, ?_, h⟩
      rw [Std.ExtTreeMap.contains_iff_mem] at hk
      exact Std.ExtTreeMap.getElem?_eq_none hk

/-- What a collected list went through, and the map it became. -/
theorem collect_ok [DecidableEq K] {items : List α} {m m' : BTreeMap K V}
    (h : collect key value check duplicate items m = .ok m') :
    (∀ a ∈ items, check a = .ok ()) ∧ (items.map key).Nodup ∧ (∀ a ∈ items, m[key a]? = none) ∧
      ∀ k v, m'[k]? = some v ↔ m[k]? = some v ∨ ∃ a ∈ items, key a = k ∧ value a = v := by
  induction items generalizing m with
  | nil => cases h; simp
  | cons a items ih =>
    obtain ⟨hcheck, hfresh, hrest⟩ := collect_cons h
    obtain ⟨hchecks, hnodup, hnew, hmap⟩ := ih hrest
    have hne : ∀ b ∈ items, key a ≠ key b := fun b hb he => by
      have := hnew b hb
      rw [he, getElem?_insert, if_pos rfl] at this
      cases this
    refine ⟨?_, ?_, ?_, fun k v => ?_⟩
    · simpa [hcheck] using hchecks
    · rw [List.map_cons, List.nodup_cons]
      refine ⟨fun hmem => ?_, hnodup⟩
      obtain ⟨b, hb, he⟩ := List.mem_map.mp hmem
      exact hne b hb he.symm
    · intro b hb
      rcases List.mem_cons.mp hb with rfl | hb
      · exact hfresh
      · have := hnew b hb
        rwa [getElem?_insert, if_neg (hne b hb)] at this
    · rw [hmap, getElem?_insert]
      by_cases hk : key a = k
      · subst hk
        simp [hfresh]
      · simp [hk]

/-- A list whose items pass their checks and have distinct new keys is collected. -/
theorem collect_of_nodup [DecidableEq K] {items : List α} {m : BTreeMap K V} (hcheck : ∀ a ∈ items, check a = .ok ())
    (hnodup : (items.map key).Nodup) (hfresh : ∀ a ∈ items, m[key a]? = none) :
    ∃ m', collect key value check duplicate items m = .ok m' := by
  induction items generalizing m with
  | nil => exact ⟨m, rfl⟩
  | cons a items ih =>
    rw [List.map_cons, List.nodup_cons] at hnodup
    have hk : m.contains (key a) = false := by
      rw [Bool.eq_false_iff, Ne, Std.ExtTreeMap.contains_iff_mem]
      intro hm
      have := hfresh a List.mem_cons_self
      rw [getElem?_pos m (key a) hm] at this
      cases this
    obtain ⟨m', h⟩ := ih (m := m.insert (key a) (value a)) (fun b hb => hcheck b (List.mem_cons_of_mem _ hb)) hnodup.2
      fun b hb => by
        rw [getElem?_insert, if_neg]
        · exact hfresh b (List.mem_cons_of_mem _ hb)
        · intro he
          exact hnodup.1 (List.mem_map.mpr ⟨b, hb, he.symm⟩)
    refine ⟨m', ?_⟩
    simp only [collect, hcheck a List.mem_cons_self, bind, Except.bind, hk]
    exact h

/-- A list that holds exactly the entries of a map, each once, is collected to the map. -/
theorem collect_of_mem [DecidableEq K] {items : List α} {m : BTreeMap K V} (hcheck : ∀ a ∈ items, check a = .ok ())
    (hnodup : (items.map key).Nodup)
    (hmem : ∀ (k : K) (v : V), m[k]? = some v ↔ ∃ a ∈ items, key a = k ∧ value a = v) :
    collect key value check duplicate items ∅ = .ok m := by
  have hcollect : ∃ m', collect key value check duplicate items ∅ = .ok m' := collect_of_nodup hcheck hnodup (by simp)
  obtain ⟨m', h⟩ := hcollect
  rw [h]
  refine congrArg _ (ext_some fun k v => ?_)
  rw [(collect_ok h).2.2.2 k v, Std.ExtTreeMap.getElem?_empty, hmem k v]
  simp

/-- Listing a map and collecting the list gives the map back. -/
theorem collect_toList [DecidableEq K] {m : BTreeMap K V} {item : K × V → α} (hkey : ∀ e, key (item e) = e.1)
    (hvalue : ∀ e, value (item e) = e.2) (hcheck : ∀ k v, m[k]? = some v → check (item (k, v)) = .ok ()) :
    collect key value check duplicate (m.toList.map item) ∅ = .ok m := by
  have hkeys : (m.toList.map item).map key = m.keys := by
    rw [List.map_map, ← Std.ExtTreeMap.map_fst_toList_eq_keys]
    exact List.map_congr_left fun e _ => hkey e
  refine collect_of_mem (fun a ha => ?_) (by rw [hkeys]; exact Std.ExtTreeMap.nodup_keys) fun k v => ?_
  · obtain ⟨⟨k, v⟩, he, rfl⟩ := List.mem_map.mp ha
    exact hcheck k v (mem_toList.mp he)
  · constructor
    · intro hk
      exact ⟨item (k, v), List.mem_map_of_mem (mem_toList.mpr hk), hkey _, hvalue _⟩
    · rintro ⟨_, ha, hk, hv⟩
      obtain ⟨⟨k', v'⟩, he, rfl⟩ := List.mem_map.mp ha
      rw [hkey] at hk
      rw [hvalue] at hv
      subst hk hv
      exact mem_toList.mp he

end Collect

end BTreeMap

end P2PTransmission
