import P2PTransmission.Foundation.TreeMap

/-!
# Tables

A table is a map from its primary keys to its rows. `Constraints` are what the schema demands of a row: a `CHECK`, the
unique indexes besides the primary key, and the foreign keys. The three statements a program writes with are `insert`,
`upsert` (`INSERT … ON CONFLICT(key) DO UPDATE`) and `update` of one row.

As SQLite does it, `upsert` checks the inserted row even when the key is taken, looks at the conflict target before the
other unique indexes, and does not look at foreign keys again when it updates columns that are not part of one.

A table is `Valid` when its rows satisfy the constraints, and each statement that succeeds keeps it so.
-/

set_option autoImplicit false

namespace P2PTransmission

inductive ConstraintError where
  | check
  | unique
  | foreignKey
  deriving DecidableEq, Repr

/-- What a schema demands of the rows of one table. -/
structure Constraints (K R : Type) [Ord K] where
  check : R → Bool
  /-- A row under another key has the same value in a unique index. -/
  clash : BTreeMap K R → K → R → Bool
  references : K → R → Bool

namespace Table

variable {K R : Type} [Ord K] [Std.TransOrd K]

/-- `INSERT`. -/
def insert (c : Constraints K R) (key : K) (row : R) (table : BTreeMap K R) : Except ConstraintError (BTreeMap K R) :=
  if c.check row = false then .error .check
  else if table.contains key then .error .unique
  else if c.clash table key row then .error .unique
  else if c.references key row = false then .error .foreignKey
  else .ok (table.insert key row)

/-- `INSERT … ON CONFLICT(key) DO UPDATE`. -/
def upsert (c : Constraints K R) (update : R → R) (key : K) (row : R) (table : BTreeMap K R) :
    Except ConstraintError (BTreeMap K R) :=
  if c.check row = false then .error .check
  else match table[key]? with
    | some old =>
      if c.check (update old) = false then .error .check
      else if c.clash table key (update old) then .error .unique
      else .ok (table.insert key (update old))
    | none =>
      if c.clash table key row then .error .unique
      else if c.references key row = false then .error .foreignKey
      else .ok (table.insert key row)

/-- `UPDATE … WHERE key = … AND …`, with the number of rows it changed. No column of an index changes. -/
def update (c : Constraints K R) (update : R → R) (key : K) (condition : R → Bool) (table : BTreeMap K R) :
    Except ConstraintError (BTreeMap K R × Nat) :=
  match table[key]? with
  | some old =>
    if condition old then
      if c.check (update old) = false then .error .check else .ok (table.insert key (update old), 1)
    else .ok (table, 0)
  | none => .ok (table, 0)

variable {c : Constraints K R} {change : R → R} {key : K} {row : R} {table table' : BTreeMap K R}

theorem insert_ok : insert c key row table = .ok table' ↔ c.check row = true ∧ table[key]? = none ∧
    c.clash table key row = false ∧ c.references key row = true ∧ table' = table.insert key row := by
  unfold insert
  by_cases hcheck : c.check row = true
  · cases hkey : table[key]? with
    | some old =>
      have hmem : table.contains key = true := by simp [Std.ExtTreeMap.contains_eq_isSome_getElem?, hkey]
      simp [hcheck, hmem]
    | none =>
      have hmem : table.contains key = false := by simp [Std.ExtTreeMap.contains_eq_isSome_getElem?, hkey]
      cases c.clash table key row <;> cases c.references key row <;> simp [hcheck, hmem, @eq_comm _ table']
  · simp [hcheck]

/-- The row that an `upsert` leaves under its key. -/
def written (change : R → R) (row : R) : Option R → R
  | some old => change old
  | none => row

theorem upsert_ok : upsert c change key row table = .ok table' ↔ c.check row = true ∧
    c.check (written change row table[key]?) = true ∧ c.clash table key (written change row table[key]?) = false ∧
    (table[key]? = none → c.references key row = true) ∧
    table' = table.insert key (written change row table[key]?) := by
  unfold upsert
  by_cases hcheck : c.check row = true
  · cases hkey : table[key]? with
    | some old =>
      cases hchange : c.check (change old) <;> cases hclash : c.clash table key (change old) <;>
        simp [hcheck, hchange, hclash, written, @eq_comm _ table']
    | none =>
      cases hclash : c.clash table key row <;> cases c.references key row <;>
        simp [hcheck, hclash, written, @eq_comm _ table']
  · simp [hcheck]

/-- A unique index refuses a row whose key is taken or that clashes. -/
theorem insert_unique (h : insert c key row table = .error .unique) :
    (∃ old, table[key]? = some old) ∨ c.clash table key row = true := by
  unfold insert at h
  split at h
  · cases h
  split at h
  · rename_i hkey
    rw [Std.ExtTreeMap.contains_eq_isSome_getElem?] at hkey
    exact .inl (Option.isSome_iff_exists.mp hkey)
  split at h
  · rename_i hclash
    exact .inr hclash
  split at h <;> cases h

/-- An `upsert` is refused by a unique index besides the key alone. -/
theorem upsert_unique (h : upsert c change key row table = .error .unique) :
    c.clash table key (written change row table[key]?) = true := by
  unfold upsert at h
  split at h
  · cases h
  split at h
  · rename_i old hold
    rw [hold]
    split at h
    · cases h
    split at h
    · rename_i hclash
      exact hclash
    · cases h
  · rename_i hnone
    rw [hnone]
    split at h
    · rename_i hclash
      exact hclash
    split at h <;> cases h

theorem upsert_getElem? [Std.LawfulEqOrd K] [DecidableEq K] (h : upsert c change key row table = .ok table')
    (k : K) : table'[k]? = if key = k then some (written change row table[k]?) else table[k]? := by
  obtain ⟨-, -, -, -, rfl⟩ := upsert_ok.mp h
  rw [BTreeMap.getElem?_insert]
  split
  · rename_i hk
    rw [hk]
  · rfl

/-- An update changes the one row, or nothing. -/
theorem update_ok {condition : R → Bool} {rows : Nat} (h : update c change key condition table = .ok (table', rows)) :
    (∃ old, table[key]? = some old ∧ condition old = true ∧ c.check (change old) = true ∧ rows = 1 ∧
        table' = table.insert key (change old)) ∨
      (rows = 0 ∧ table' = table ∧ ∀ old, table[key]? = some old → condition old = false) := by
  unfold update at h
  split at h
  · rename_i old hold
    split at h
    · rename_i hcondition
      split at h
      · cases h
      rename_i hcheck
      cases h
      exact .inl ⟨old, hold, hcondition, by simpa using hcheck, rfl, rfl⟩
    · rename_i hcondition
      cases h
      refine .inr ⟨rfl, rfl, fun old' hold' => ?_⟩
      rw [hold] at hold'
      cases hold'
      simpa using hcondition
  · rename_i hnone
    cases h
    exact .inr ⟨rfl, rfl, fun old hold => by rw [hnone] at hold; cases hold⟩

/-- An update whose row is there, meets the condition and stays within the constraints. -/
theorem update_succeeds {condition : R → Bool} {old : R} (hold : table[key]? = some old)
    (hcondition : condition old = true) (hcheck : c.check (change old) = true) :
    update c change key condition table = .ok (table.insert key (change old), 1) := by
  unfold update
  simp [hold, hcondition, hcheck]

/-! ## Tables within their constraints -/

/-- The unique indexes forbid exactly the rows that conflict with a row under another key. -/
def Forbids (c : Constraints K R) (conflict : R → R → Prop) : Prop :=
  ∀ (table : BTreeMap K R) (key : K) (row : R), c.clash table key row = true ↔
    ∃ (other : K) (row' : R), other ≠ key ∧ table[other]? = some row' ∧ conflict row row'

/-- Every row passes its check and its foreign keys, and no two rows conflict. -/
structure Valid (c : Constraints K R) (conflict : R → R → Prop) (table : BTreeMap K R) : Prop where
  check : ∀ (key : K) (row : R), table[key]? = some row → c.check row = true
  references : ∀ (key : K) (row : R), table[key]? = some row → c.references key row = true
  unique : ∀ (key other : K) (row row' : R), table[key]? = some row → table[other]? = some row' →
    conflict row row' → key = other

section Valid

variable {c' : Constraints K R} {conflict : R → R → Prop}

theorem Forbids.free (h : Forbids c conflict) (hclash : c.clash table key row = false) {other : K} {row' : R}
    (hother : other ≠ key) (hrow : table[other]? = some row') : ¬ conflict row row' := by
  intro hconflict
  have := (h table key row).mpr ⟨other, row', hother, hrow, hconflict⟩
  rw [hclash] at this
  cases this

theorem Forbids.of_free (h : Forbids c conflict)
    (hfree : ∀ (other : K) (row' : R), other ≠ key → table[other]? = some row' → ¬ conflict row row') :
    c.clash table key row = false := by
  rw [← Bool.not_eq_true, h table key row]
  rintro ⟨other, row', hother, hrow, hconflict⟩
  exact hfree other row' hother hrow hconflict

theorem Valid.empty (c : Constraints K R) (conflict : R → R → Prop) : Valid c conflict ∅ := by
  constructor <;> simp

/-- The foreign keys of a table look at other tables, which may grow. -/
theorem Valid.mono (h : Valid c conflict table) (hcheck : ∀ row, c.check row = true → c'.check row = true)
    (hreferences : ∀ key row, c.references key row = true → c'.references key row = true) :
    Valid c' conflict table where
  check key row hrow := hcheck row (h.check key row hrow)
  references key row hrow := hreferences key row (h.references key row hrow)
  unique := h.unique

variable [Std.LawfulEqOrd K] [DecidableEq K]

/-- A row that conflicts with no row under another key. -/
theorem Valid.write (h : Valid c conflict table) (hsymm : ∀ a b, conflict a b → conflict b a)
    (hcheck : c.check row = true) (hreferences : c.references key row = true)
    (hfree : ∀ (other : K) (row' : R), other ≠ key → table[other]? = some row' → ¬ conflict row row') :
    Valid c conflict (table.insert key row) where
  check k r hr := by
    rw [BTreeMap.getElem?_insert] at hr
    split at hr
    · cases hr; exact hcheck
    · exact h.check k r hr
  references k r hr := by
    rw [BTreeMap.getElem?_insert] at hr
    split at hr
    · rename_i hk
      cases hr
      rwa [← hk]
    · exact h.references k r hr
  unique k k' r r' hr hr' hconflict := by
    rw [BTreeMap.getElem?_insert] at hr hr'
    split at hr <;> split at hr'
    · rename_i hk hk'
      rw [← hk, ← hk']
    · rename_i hk hk'
      cases hr
      exact absurd hconflict (hfree k' r' (Ne.symm hk') hr')
    · rename_i hk hk'
      cases hr'
      exact absurd (hsymm _ _ hconflict) (hfree k r (Ne.symm hk) hr)
    · exact h.unique k k' r r' hr hr' hconflict

theorem Valid.insert (h : Valid c conflict table) (hsymm : ∀ a b, conflict a b → conflict b a)
    (hforbids : Forbids c conflict) (hok : insert c key row table = .ok table') : Valid c conflict table' := by
  obtain ⟨hcheck, -, hclash, hreferences, rfl⟩ := insert_ok.mp hok
  exact h.write hsymm hcheck hreferences fun other row' hother hrow => hforbids.free hclash hother hrow

/-- The columns that an `upsert` updates are in no foreign key. -/
theorem Valid.upsert (h : Valid c conflict table) (hsymm : ∀ a b, conflict a b → conflict b a)
    (hforbids : Forbids c conflict) (hok : upsert c change key row table = .ok table')
    (hcolumns : ∀ old, c.references key (change old) = c.references key old) : Valid c conflict table' := by
  obtain ⟨-, hcheck, hclash, hreferences, rfl⟩ := upsert_ok.mp hok
  refine h.write hsymm hcheck ?_ fun other row' hother hrow => hforbids.free hclash hother hrow
  cases hold : table[key]? with
  | some old => exact (hcolumns old).trans (h.references key old hold)
  | none => exact hreferences hold

/-- The columns that an `update` sets are in no index and in no foreign key. -/
theorem Valid.update (h : Valid c conflict table) (hsymm : ∀ a b, conflict a b → conflict b a) {condition : R → Bool}
    {rows : Nat} (hok : update c change key condition table = .ok (table', rows))
    (hindexed : ∀ old other, conflict (change old) other → conflict old other)
    (hcolumns : ∀ old, c.references key (change old) = c.references key old) : Valid c conflict table' := by
  rcases update_ok hok with ⟨old, hold, -, hcheck, -, rfl⟩ | ⟨-, rfl, -⟩
  · refine h.write hsymm hcheck ((hcolumns old).trans (h.references key old hold)) fun other row' hother hrow hc => ?_
    exact hother (h.unique key other old row' hold hrow (hindexed old row' hc)).symm
  · exact h

end Valid

end Table

end P2PTransmission
