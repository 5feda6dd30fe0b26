import Mathlib.Data.List.Forall2

/-!
# Computations that fail

Programs that stop at the first error: a sequence of steps (`bind_ok`), a list that is read (`mapM_ok`), and a loop that
writes (`foldlM_keeps`, `foldlM_writes`).
-/

set_option autoImplicit false

namespace P2PTransmission

theorem bind_ok {E A B : Type} {x : Except E A} {f : A → Except E B} {b : B} :
    (x >>= f) = .ok b ↔ ∃ a, x = .ok a ∧ f a = .ok b := by
  cases x with
  | error e =>
    constructor
    · intro h; cases h
    · rintro ⟨a, h, -⟩; cases h
  | ok a =>
    constructor
    · intro h; exact ⟨a, rfl, h⟩
    · rintro ⟨a', ha, h⟩
      cases ha
      exact h

theorem bind_error {E A B : Type} {x : Except E A} {f : A → Except E B} {e : E} (h : (x >>= f) = .error e) :
    x = .error e ∨ ∃ a, x = .ok a ∧ f a = .error e := by
  cases x with
  | error e' =>
    cases h
    exact .inl rfl
  | ok a => exact .inr ⟨a, rfl, h⟩

/-- A check in a sequence of steps. -/
theorem throwIf_ok {E B : Type} {c : Prop} [Decidable c] {e : E} {f : Unit → Except E B} {b : B} :
    (if c then throw e >>= f else f ()) = .ok b ↔ ¬c ∧ f () = .ok b := by
  by_cases hc : c
  · rw [if_pos hc]
    constructor
    · intro h; cases h
    · rintro ⟨hnot, -⟩; exact absurd hc hnot
  · rw [if_neg hc]
    exact ⟨fun h => ⟨hc, h⟩, fun h => h.2⟩

/-! ## Loops that read -/

section Reads

variable {E A B : Type} {f : A → Except E B}

theorem mapM_ok {items : List A} {results : List B} :
    items.mapM f = .ok results ↔ List.Forall₂ (fun a b => f a = .ok b) items results := by
  induction items generalizing results with
  | nil =>
    rw [List.mapM_nil, List.forall₂_nil_left_iff]
    constructor
    · intro h; cases h; rfl
    · rintro rfl; rfl
  | cons a items ih =>
    rw [List.mapM_cons, bind_ok, List.forall₂_cons_left_iff]
    constructor
    · rintro ⟨b, hb, hrest⟩
      obtain ⟨bs, hbs, hr⟩ := bind_ok.mp hrest
      cases hr
      exact ⟨b, bs, hb, ih.mp hbs, rfl⟩
    · rintro ⟨b, bs, hb, hbs, rfl⟩
      exact ⟨b, hb, bind_ok.mpr ⟨bs, ih.mpr hbs, rfl⟩⟩

/-- A list that cannot be read has an item that cannot. -/
theorem mapM_error {items : List A} {e : E} (h : items.mapM f = .error e) : ∃ a ∈ items, f a = .error e := by
  induction items with
  | nil => cases h
  | cons a items ih =>
    rw [List.mapM_cons] at h
    rcases bind_error h with h | ⟨b, -, h⟩
    · exact ⟨a, List.mem_cons_self, h⟩
    · rcases bind_error h with h | ⟨bs, -, h⟩
      · obtain ⟨a', ha', he⟩ := ih h
        exact ⟨a', List.mem_cons_of_mem _ ha', he⟩
      · cases h

/-- A list whose items can all be read is read. -/
theorem mapM_of_forall {items : List A} (h : ∀ a ∈ items, ∃ b, f a = .ok b) : ∃ results, items.mapM f = .ok results := by
  induction items with
  | nil => exact ⟨[], rfl⟩
  | cons a items ih =>
    obtain ⟨b, hb⟩ := h a List.mem_cons_self
    obtain ⟨bs, hbs⟩ := ih fun a ha => h a (List.mem_cons_of_mem _ ha)
    exact ⟨b :: bs, mapM_ok.mpr (.cons hb (mapM_ok.mp hbs))⟩

theorem mem_of_mapM {items : List A} {results : List B} (h : items.mapM f = .ok results) {b : B} :
    b ∈ results ↔ ∃ a ∈ items, f a = .ok b := by
  rw [mapM_ok] at h
  induction h with
  | nil => simp
  | @cons a b' items results hab _ ih =>
    rw [List.mem_cons]
    constructor
    · rintro (rfl | hb)
      · exact ⟨a, List.mem_cons_self, hab⟩
      · obtain ⟨a', ha', hf⟩ := ih.mp hb
        exact ⟨a', List.mem_cons_of_mem _ ha', hf⟩
    · rintro ⟨a', ha', hf⟩
      rcases List.mem_cons.mp ha' with rfl | ha'
      · rw [hab] at hf; exact .inl (Except.ok.inj hf).symm
      · exact .inr (ih.mpr ⟨a', ha', hf⟩)

theorem mapM_reads {items : List A} {results : List B} (h : items.mapM f = .ok results) {a : A} (ha : a ∈ items) :
    ∃ b ∈ results, f a = .ok b := by
  rw [mapM_ok] at h
  induction h with
  | nil => cases ha
  | @cons a' b items results hab _ ih =>
    rcases List.mem_cons.mp ha with rfl | ha
    · exact ⟨b, List.mem_cons_self, hab⟩
    · obtain ⟨b', hb', hf⟩ := ih ha
      exact ⟨b', List.mem_cons_of_mem _ hb', hf⟩

/-- A key that survives reading is the same list before and after. -/
theorem map_of_mapM {K : Type} {items : List A} {results : List B} {key : A → K} {key' : B → K}
    (hkey : ∀ a b, f a = .ok b → key' b = key a) (h : items.mapM f = .ok results) :
    results.map key' = items.map key := by
  rw [mapM_ok] at h
  induction h with
  | nil => rfl
  | cons hab _ ih => rw [List.map_cons, List.map_cons, hkey _ _ hab, ih]

end Reads

/-! ## Loops that write -/

section Writes

variable {S A K V E : Type} {step : S → A → Except E S} {items : List A} {s s' : S}

theorem foldlM_cons_ok {a : A} (h : (a :: items).foldlM step s = .ok s') :
    ∃ t, step s a = .ok t ∧ items.foldlM step t = .ok s' := by
  rw [List.foldlM_cons] at h
  cases hs : step s a with
  | error e => rw [hs] at h; cases h
  | ok t => rw [hs] at h; exact ⟨t, rfl, h⟩

/-- What every write keeps, the loop keeps. -/
theorem foldlM_keeps {P : S → Prop} (hstep : ∀ s a s', a ∈ items → P s → step s a = .ok s' → P s')
    (h : items.foldlM step s = .ok s') (h0 : P s) : P s' := by
  induction items generalizing s with
  | nil => cases h; exact h0
  | cons a items ih =>
    obtain ⟨t, ha, hrest⟩ := foldlM_cons_ok h
    have ht : P t := hstep s a t List.mem_cons_self h0 ha
    exact ih (fun s b s' hb => hstep s b s' (List.mem_cons_of_mem _ hb)) hrest ht

/-- A loop that fails has a write that fails. -/
theorem foldlM_error {e : E} (h : items.foldlM step s = .error e) : ∃ s a, a ∈ items ∧ step s a = .error e := by
  induction items generalizing s with
  | nil => cases h
  | cons a items ih =>
    rw [List.foldlM_cons] at h
    rcases bind_error h with h | ⟨t, -, h⟩
    · exact ⟨s, a, List.mem_cons_self, h⟩
    · obtain ⟨s', b, hb, hstep⟩ := ih h
      exact ⟨s', b, List.mem_cons_of_mem _ hb, hstep⟩

/-- A loop succeeds if every write does and keeps what the writes need. -/
theorem foldlM_succeeds {P : S → Prop} (hstep : ∀ s a, a ∈ items → P s → ∃ s', step s a = .ok s' ∧ P s') (h0 : P s) :
    ∃ s', items.foldlM step s = .ok s' := by
  induction items generalizing s with
  | nil => exact ⟨s, rfl⟩
  | cons a items ih =>
    obtain ⟨t, ha, ht⟩ := hstep s a List.mem_cons_self h0
    obtain ⟨s', hrest⟩ := ih (fun s b hb => hstep s b (List.mem_cons_of_mem _ hb)) ht
    exact ⟨s', by rw [List.foldlM_cons, ha]; exact hrest⟩

/-- **A loop of writes under distinct keys.** Each key of the list gets what its item writes over the value the loop
found there, and every other key keeps its value. -/
theorem foldlM_writes [DecidableEq K] (get : S → K → Option V) (key : A → K) (write : A → Option V → V)
    (hstep : ∀ s a s', step s a = .ok s' → ∀ k, get s' k = if key a = k then some (write a (get s k)) else get s k)
    (hnodup : (items.map key).Nodup) (h : items.foldlM step s = .ok s') :
    (∀ a ∈ items, get s' (key a) = some (write a (get s (key a)))) ∧
      ∀ k, k ∉ items.map key → get s' k = get s k := by
  induction items generalizing s with
  | nil => cases h; simp
  | cons a items ih =>
    obtain ⟨t, ha, hrest⟩ := foldlM_cons_ok h
    rw [List.map_cons, List.nodup_cons] at hnodup
    obtain ⟨hwritten, hother⟩ := ih hnodup.2 hrest
    have hne : ∀ b ∈ items, key a ≠ key b := fun b hb he => hnodup.1 (List.mem_map.mpr ⟨b, hb, he.symm⟩)
    constructor
    · intro b hb
      rcases List.mem_cons.mp hb with rfl | hb
      · rw [hother _ hnodup.1, hstep s b t ha, if_pos rfl]
      · rw [hwritten b hb, hstep s a t ha, if_neg (hne b hb)]
    · intro k hk
      rw [List.map_cons, List.mem_cons, not_or] at hk
      rw [hother k hk.2, hstep s a t ha, if_neg (Ne.symm hk.1)]

end Writes

end P2PTransmission
