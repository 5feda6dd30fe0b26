import Mathlib.Data.List.Basic
import Mathlib.Data.List.Induction

/-!
# What holds since

A machine `f` runs through its inputs. `Since f starts ends s es` says that some input of `es` started something which no
later input has ended. Where every single input starts or ends a property of the state in this sense, the property holds
after a run exactly if it holds since (`since_iff`).
-/

set_option autoImplicit false

namespace P2PTransmission

variable {σ ε : Type}

/-- An input of `es` starts it in the state that it meets, and no input after it ends it. -/
def Since (f : σ → ε → σ) (starts ends : σ → ε → Prop) (s : σ) (es : List ε) : Prop :=
  ∃ before e after, es = before ++ e :: after ∧ starts (before.foldl f s) e ∧
    ∀ between last rest, after = between ++ last :: rest → ¬ ends ((before ++ e :: between).foldl f s) last

variable {f : σ → ε → σ} {starts ends : σ → ε → Prop} {s : σ}

theorem not_since_nil : ¬ Since f starts ends s [] := by
  rintro ⟨before, e, after, hes, -⟩
  cases before <;> cases hes

theorem since_snoc (es : List ε) (last : ε) :
    Since f starts ends s (es ++ [last]) ↔
      starts (es.foldl f s) last ∨ Since f starts ends s es ∧ ¬ ends (es.foldl f s) last := by
  constructor
  · rintro ⟨before, e, after, hes, hstarts, hends⟩
    rcases List.eq_nil_or_concat after with rfl | ⟨rest, other, rfl⟩
    · obtain ⟨rfl, he⟩ := List.append_inj' hes rfl
      cases he
      exact .inl hstarts
    · rw [List.concat_eq_append, ← List.cons_append, ← List.append_assoc] at hes
      obtain ⟨rfl, he⟩ := List.append_inj' hes rfl
      cases he
      rw [List.concat_eq_append] at hends
      refine .inr ⟨⟨before, e, rest, rfl, hstarts, fun between e' rest' hrest => ?_⟩, hends rest last [] rfl⟩
      exact hends between e' (rest' ++ [last]) (by rw [hrest, List.append_assoc, List.cons_append])
  · rintro (hstarts | ⟨⟨before, e, after, rfl, hstarts, hends⟩, hlast⟩)
    · refine ⟨es, last, [], rfl, hstarts, fun between e rest h => ?_⟩
      cases between <;> cases h
    · refine ⟨before, e, after ++ [last], by rw [List.append_assoc, List.cons_append], hstarts, ?_⟩
      intro between e' rest hrest
      rcases List.eq_nil_or_concat rest with rfl | ⟨rest, other, rfl⟩
      · obtain ⟨rfl, he⟩ := List.append_inj' hrest rfl
        cases he
        exact hlast
      · rw [List.concat_eq_append, ← List.cons_append, ← List.append_assoc] at hrest
        obtain ⟨rfl, -⟩ := List.append_inj' hrest rfl
        exact hends between e' rest rfl

/-- **A property that every input starts or ends holds exactly if it holds since.** -/
theorem since_iff {I P : σ → Prop} (hkeep : ∀ s e, I s → I (f s e))
    (hstep : ∀ s e, I s → (P (f s e) ↔ starts s e ∨ P s ∧ ¬ ends s e)) (h0 : I s) (hnot : ¬ P s) (es : List ε) :
    P (es.foldl f s) ↔ Since f starts ends s es := by
  have hinv : ∀ es : List ε, I (es.foldl f s) := by
    intro es
    induction es using List.reverseRecOn with
    | nil => exact h0
    | append_singleton es e ih =>
      rw [List.foldl_concat]
      exact hkeep _ e ih
  induction es using List.reverseRecOn with
  | nil => exact iff_of_false hnot not_since_nil
  | append_singleton es e ih =>
    rw [List.foldl_concat, since_snoc]
    exact (hstep _ e (hinv es)).trans (or_congr_right (and_congr_left' ih))

/-- What an input ends whatever the state is. -/
theorem since_of_ends {ended : ε → Prop} {es : List ε} :
    Since f starts (fun _ e => ended e) s es ↔
      ∃ before e after, es = before ++ e :: after ∧ starts (before.foldl f s) e ∧ ∀ last ∈ after, ¬ ended last := by
  constructor
  · rintro ⟨before, e, after, hes, hstarts, hends⟩
    refine ⟨before, e, after, hes, hstarts, fun last hin => ?_⟩
    obtain ⟨between, rest, hafter⟩ := List.append_of_mem hin
    exact hends between last rest hafter
  · rintro ⟨before, e, after, hes, hstarts, hends⟩
    refine ⟨before, e, after, hes, hstarts, fun between last rest hafter => hends last ?_⟩
    rw [hafter]
    exact List.mem_append_right _ List.mem_cons_self

end P2PTransmission
