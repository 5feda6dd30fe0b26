import Mathlib.Data.List.Induction

/-!
# Runs of a step relation

`Run step s es t`: the labelled steps `es` lead from `s` to `t`. A property that one step keeps holds along every run
(`Run.invariant`), a reflexive and transitive relation that one step satisfies relates the ends of every run
(`Run.relates`), and what holds at every label of a run can be read off at any split of it (`Run.split`).

A run all of whose steps meet a condition is a run of the restricted relation `guarded step cond`. `Visited` and `Taken`
speak of the states that a list of labels passes through and of the steps between them, as far as the labels can be
followed.
-/

set_option autoImplicit false

namespace P2PTransmission

variable {σ ε : Type}

inductive Run (step : σ → ε → σ → Prop) : σ → List ε → σ → Prop
  | nil (s : σ) : Run step s [] s
  | cons {s t u : σ} {e : ε} {es : List ε} : step s e t → Run step t es u → Run step s (e :: es) u

/-- The steps of `step` that meet a condition on the state before and the label. -/
def guarded (step : σ → ε → σ → Prop) (cond : σ → ε → Prop) (s : σ) (e : ε) (t : σ) : Prop :=
  step s e t ∧ cond s e

namespace Run

variable {step step' : σ → ε → σ → Prop} {s t u : σ} {es fs : List ε} {e : ε}

theorem single (h : step s e t) : Run step s [e] t := .cons h (.nil t)

theorem trans (h : Run step s es t) (h' : Run step t fs u) : Run step s (es ++ fs) u := by
  induction h with
  | nil => exact h'
  | cons hs _ ih => exact .cons hs (ih h')

theorem snoc (h : Run step s es t) (h' : step t e u) : Run step s (es ++ [e]) u := h.trans (single h')

theorem mono (hle : ∀ s e t, step s e t → step' s e t) (h : Run step s es t) : Run step' s es t := by
  induction h with
  | nil => exact .nil _
  | cons hs _ ih => exact .cons (hle _ _ _ hs) ih

theorem of_guarded {cond : σ → ε → Prop} (h : Run (guarded step cond) s es t) : Run step s es t :=
  h.mono fun _ _ _ hs => hs.1

/-- A run passes through a state at every split of its labels. -/
theorem split (h : Run step s (es ++ fs) t) : ∃ u, Run step s es u ∧ Run step u fs t := by
  induction es generalizing s with
  | nil => exact ⟨s, .nil s, h⟩
  | cons e es ih =>
    cases h with
    | cons hs hr =>
      obtain ⟨u, h₁, h₂⟩ := ih hr
      exact ⟨u, .cons hs h₁, h₂⟩

/-- A run of restricted steps, from the condition on each step of the run. -/
theorem to_guarded {cond : σ → ε → Prop} (h : Run step s es t)
    (hcond : ∀ pre e post u u', es = pre ++ e :: post → Run step s pre u → step u e u' → Run step u' post t → cond u e) :
    Run (guarded step cond) s es t := by
  induction h with
  | nil => exact .nil _
  | @cons s u t e es hs hrest ih =>
    refine .cons ⟨hs, hcond [] e es s u rfl (.nil s) hs hrest⟩ (ih fun pre e' post v v' he hpre hstep hpost => ?_)
    exact hcond (e :: pre) e' post v v' (by rw [he]; rfl) (.cons hs hpre) hstep hpost

/-- Runs of a step that has one outcome at most have one end at most. -/
theorem unique (hstep : ∀ s e t t', step s e t → step s e t' → t = t') (h : Run step s es t) (h' : Run step s es u) :
    t = u := by
  induction h with
  | nil => cases h'; rfl
  | cons hs _ ih =>
    cases h' with
    | cons hs' hr' =>
      rw [hstep _ _ _ _ hs hs'] at ih
      exact ih hr'

/-- **Invariant rule.** -/
theorem invariant {I : σ → Prop} (hstep : ∀ s e t, I s → step s e t → I t) (h : Run step s es t) (h0 : I s) : I t := by
  induction h with
  | nil => exact h0
  | cons hs _ ih => exact ih (hstep _ _ _ h0 hs)

/-- A relation kept along a run that starts in an invariant. -/
theorem relates {I : σ → Prop} {R : σ → σ → Prop} (hrefl : ∀ s, R s s) (htrans : ∀ {s t u}, R s t → R t u → R s u)
    (hstep : ∀ s e t, I s → step s e t → I t ∧ R s t) (h : Run step s es t) (h0 : I s) : R s t := by
  induction h with
  | nil => exact hrefl _
  | cons hs _ ih =>
    obtain ⟨hI, hR⟩ := hstep _ _ _ h0 hs
    exact htrans hR (ih hI)

/-- Runs of a function are its folds. -/
theorem of_foldl (f : σ → ε → σ) (s : σ) (es : List ε) : Run (fun s e t => f s e = t) s es (es.foldl f s) := by
  induction es generalizing s with
  | nil => exact .nil s
  | cons e es ih => exact .cons rfl (ih (f s e))

/-- Where the labels lead, if every one of them can happen. -/
def follow (step : σ → ε → Option σ) (s : σ) : List ε → Option σ
  | [] => some s
  | e :: es => (step s e).bind fun t => follow step t es

theorem of_follow {step : σ → ε → Option σ} (h : follow step s es = some t) :
    Run (fun s e t => step s e = some t) s es t := by
  induction es generalizing s with
  | nil =>
    cases h
    exact .nil _
  | cons e es ih =>
    obtain ⟨u, hstep, hrest⟩ := Option.bind_eq_some_iff.mp h
    exact .cons hstep (ih hrest)

end Run

/-! ## Along the labels -/

/-- A state that the labels pass through. -/
def Visited (step : σ → ε → σ → Prop) (s : σ) (es : List ε) (u : σ) : Prop :=
  ∃ pre post, es = pre ++ post ∧ Run step s pre u

/-- A step that the labels take. -/
def Taken (step : σ → ε → σ → Prop) (s : σ) (es : List ε) (u : σ) (e : ε) (u' : σ) : Prop :=
  ∃ pre post, es = pre ++ e :: post ∧ Run step s pre u ∧ step u e u'

section Along

variable {step : σ → ε → σ → Prop} {s u u' : σ} {e : ε} {es : List ε}

theorem Visited.start (step : σ → ε → σ → Prop) (s : σ) (es : List ε) : Visited step s es s := ⟨[], es, rfl, .nil s⟩

theorem Visited.last (h : Run step s es u) : Visited step s es u := ⟨es, [], (List.append_nil es).symm, h⟩

theorem Visited.run (h : Visited step s es u) : ∃ pre, Run step s pre u := by
  obtain ⟨pre, -, -, hrun⟩ := h
  exact ⟨pre, hrun⟩

theorem Taken.holds (h : Taken step s es u e u') : step u e u' := by
  obtain ⟨_, _, _, _, hstep⟩ := h
  exact hstep

theorem Taken.before (h : Taken step s es u e u') : Visited step s es u := by
  obtain ⟨pre, post, hes, hrun, -⟩ := h
  exact ⟨pre, e :: post, hes, hrun⟩

theorem Taken.after (h : Taken step s es u e u') : Visited step s es u' := by
  obtain ⟨pre, post, hes, hrun, hstep⟩ := h
  exact ⟨pre ++ [e], post, by rw [hes, List.append_assoc, List.singleton_append], hrun.snoc hstep⟩

/-- **Invariant rule** for the states that the labels pass through, from the steps that they take. -/
theorem Visited.invariant {I : σ → Prop} (hstep : ∀ u e u', Taken step s es u e u' → I u → I u') (h0 : I s)
    (h : Visited step s es u) : I u := by
  obtain ⟨pre, post, hes, hrun⟩ := h
  induction pre using List.reverseRecOn generalizing u post with
  | nil =>
    cases hrun
    exact h0
  | append_singleton pre e ih =>
    obtain ⟨v, hpre, hlast⟩ := hrun.split
    rw [List.append_assoc, List.singleton_append] at hes
    cases hlast with
    | cons hs hnil =>
      cases hnil
      exact hstep v e u ⟨pre, post, hes, hpre, hs⟩ (ih (e :: post) hes hpre)

/-- A state that the labels pass through lies before a step that they take, or after it. -/
theorem Taken.compare (hstep : ∀ s e t t', step s e t → step s e t' → t = t') (h : Taken step s es u e u') {v : σ}
    (hv : Visited step s es v) : (∃ between, Run step v between u) ∨ ∃ between, Run step u' between v := by
  obtain ⟨pre, post, hes, hrun, htaken⟩ := h
  obtain ⟨pre', post', hes', hrun'⟩ := hv
  rcases List.append_eq_append_iff.mp (hes.symm.trans hes') with ⟨between, rfl, hrest⟩ | ⟨between, rfl, -⟩
  · obtain ⟨w, hfirst, hlast⟩ := hrun'.split
    have hw : w = u := Run.unique hstep hfirst hrun
    subst hw
    cases between with
    | nil =>
      cases hlast
      exact .inl ⟨[], .nil _⟩
    | cons e' between =>
      cases hrest
      cases hlast with
      | cons hs hlast =>
        have hnext := hstep _ _ _ _ hs htaken
        subst hnext
        exact .inr ⟨between, hlast⟩
  · obtain ⟨w, hfirst, hlast⟩ := hrun.split
    have hw : w = v := Run.unique hstep hfirst hrun'
    subst hw
    exact .inl ⟨between, hlast⟩

end Along

/-- Every step from `s` along the labels passes a test, as far as they can happen. -/
def allPass (step : σ → ε → Option σ) (test : σ → ε → Bool) (s : σ) : List ε → Bool
  | [] => true
  | e :: es => test s e && match step s e with
    | none => true
    | some t => allPass step test t es

theorem Taken.pass {step : σ → ε → Option σ} {test : σ → ε → Bool} {s u u' : σ} {e : ε} {es : List ε}
    (h : Taken (fun s e t => step s e = some t) s es u e u') (hpass : allPass step test s es = true) :
    test u e = true := by
  obtain ⟨pre, post, rfl, hrun, -⟩ := h
  induction hrun with
  | nil =>
    rw [List.nil_append, allPass, Bool.and_eq_true] at hpass
    exact hpass.1
  | cons hstep _ ih =>
    rw [List.cons_append, allPass, Bool.and_eq_true, hstep] at hpass
    exact ih hpass.2

/-! ## Records that grow at the end -/

/-- A split of a record that has grown by one entry is a split at that entry, or one of the record before. -/
theorem snoc_split {A : Type} {record before after : List A} {last entry : A} (h : record ++ [last] = before ++ entry :: after) :
    (after = [] ∧ before = record ∧ entry = last) ∨ ∃ rest, after = rest ++ [last] ∧ record = before ++ entry :: rest := by
  rcases List.eq_nil_or_concat after with rfl | ⟨rest, other, rfl⟩
  · obtain ⟨hsame, hlast⟩ := List.append_inj' h rfl
    exact .inl ⟨rfl, hsame.symm, (List.head_eq_of_cons_eq hlast).symm⟩
  · rw [List.concat_eq_append, ← List.cons_append, ← List.append_assoc] at h
    obtain ⟨hsame, hlast⟩ := List.append_inj' h rfl
    rw [List.concat_eq_append, List.head_eq_of_cons_eq hlast]
    exact .inr ⟨rest, rfl, hsame⟩

/-- Every entry of a record has its grounds in what came before it. -/
def Founded {A : Type} (grounds : List A → A → Prop) (record : List A) : Prop :=
  ∀ before entry after, record = before ++ entry :: after → grounds before entry

namespace Founded

variable {A : Type} {grounds : List A → A → Prop} {record new : List A} {entry : A}

theorem nil : Founded grounds [] := fun before entry after h => by cases before <;> cases h

theorem snoc (h : Founded grounds record) (hentry : grounds record entry) : Founded grounds (record ++ [entry]) := by
  intro before last after hsplit
  rcases snoc_split hsplit with ⟨-, rfl, rfl⟩ | ⟨rest, -, hrest⟩
  · exact hentry
  · exact h before last rest hrest

/-- Entries whose grounds are there, whatever else is. -/
theorem append (h : Founded grounds record) (hnew : ∀ entry ∈ new, ∀ before, grounds (record ++ before) entry) :
    Founded grounds (record ++ new) := by
  induction new using List.reverseRecOn with
  | nil => rwa [List.append_nil]
  | append_singleton new last ih =>
    rw [← List.append_assoc]
    refine snoc (ih fun entry hin => hnew entry (List.mem_append_left _ hin)) ?_
    exact hnew last (List.mem_append_right _ (List.mem_singleton_self last)) new

end Founded

end P2PTransmission
