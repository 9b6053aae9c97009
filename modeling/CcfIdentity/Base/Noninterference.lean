import CcfIdentity.Base.Runs

/-!
# Purged runs

An observer is concerned by some of the actions. Where an action of no concern leaves every
state the same to it, and an action of concern keeps states the same that were, the observer
finds at the end of a run what it would find had only its own actions been taken.
-/

namespace Noninterference

variable {S A : Type*}

/-- The unwinding conditions for an observer that takes `R`-related states for the same: in
the states `I`, for the actions `scope`. -/
structure Unwinding (step : S → A → S) (I : S → Prop) (scope : A → Prop) (concerns : A → Bool)
    (R : S → S → Prop) : Prop where
  keeps : ∀ s a, I s → I (step s a)
  hidden : ∀ s t a, scope a → I s → R s t → concerns a = false → R (step s a) t
  visible : ∀ s t a, scope a → I s → I t → R s t → concerns a = true →
    R (step s a) (step t a)

/-- A run and the run of its actions of concern end in states that are the same to the
observer. -/
theorem run_purge {step : S → A → S} {I : S → Prop} {scope : A → Prop} {concerns : A → Bool}
    {R : S → S → Prop} (h : Unwinding step I scope concerns R) {s t : S} (hs : I s) (ht : I t)
    (hR : R s t) {as : List A} (has : ∀ a ∈ as, scope a) :
    R (Runs.run step s as) (Runs.run step t (as.filter concerns)) := by
  induction as generalizing s t with
  | nil => exact hR
  | cons a as ih =>
    have ha : scope a := has a List.mem_cons_self
    have hrest : ∀ b ∈ as, scope b := fun b hb => has b (List.mem_cons_of_mem _ hb)
    cases hconcerns : concerns a with
    | false =>
      rw [List.filter_cons_of_neg (by simp [hconcerns]), Runs.run_cons]
      exact ih (h.keeps s a hs) ht (h.hidden s t a ha hs hR hconcerns) hrest
    | true =>
      rw [List.filter_cons_of_pos hconcerns, Runs.run_cons, Runs.run_cons]
      exact ih (h.keeps s a hs) (h.keeps t a ht) (h.visible s t a ha hs ht hR hconcerns) hrest

end Noninterference
