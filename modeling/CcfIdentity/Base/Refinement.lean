import CcfIdentity.Base.Runs

/-!
# Refinement along runs

A machine follows another one when each of its states is the image of the other's after the
same actions. An exact condition for one step gives the exact condition for whole runs. A
machine that takes only the actions that another one admits runs as if it were given those
alone.
-/

namespace Refinement

variable {S T A : Type*}

/-- Both machines take the action. -/
def both (step : S → A → S) (step' : T → A → T) (x : S × T) (a : A) : S × T :=
  (step x.1 a, step' x.2 a)

/-- Each machine takes its own run. -/
theorem run_both (step : S → A → S) (step' : T → A → T) (x : S × T) (as : List A) :
    Runs.run (both step step') x as = (Runs.run step x.1 as, Runs.run step' x.2 as) := by
  induction as generalizing x with
  | nil => rfl
  | cons a as ih => rw [Runs.run_cons, ih, both, Runs.run_cons, Runs.run_cons]

/-- If one step from an image leads to the image of the other machine's step exactly under a
condition, the states of a run are images throughout exactly when all its steps meet it. -/
theorem follows_iff_guarded {step : S → A → S} {step' : T → A → T} {image : T → S}
    {C : T → A → Prop} (h : ∀ t a, step (image t) a = image (step' t a) ↔ C t a) (t : T)
    (as : List A) :
    (∀ done, done <+: as → Runs.run step (image t) done = image (Runs.run step' t done)) ↔
      Runs.Guarded step' C t as := by
  have hstep : ∀ (x : S × T) (a : A), x.1 = image x.2 →
      ((both step step' x a).1 = image (both step step' x a).2 ↔ C x.2 a) := by
    rintro ⟨s, t⟩ a hst
    obtain rfl : s = image t := hst
    exact h t a
  have hiff := Runs.throughout_iff_guarded (P := fun x : S × T => x.1 = image x.2)
    (C := fun x a => C x.2 a) hstep (s := (image t, t)) rfl as
  simpa only [Runs.Throughout, Runs.Guarded, run_both] using hiff

/-- If a view of a machine is changed by the actions with an image and by no others, as another
machine takes their images, then a run of the one is seen as a run of the other. -/
theorem run_view {B : Type*} {step : S → A → S} {step' : T → B → T} (view : S → T)
    (image : A → Option B)
    (h : ∀ s a, view (step s a) = (image a).elim (view s) (step' (view s))) (s : S)
    (as : List A) : view (Runs.run step s as) = Runs.run step' (view s) (as.filterMap image) := by
  induction as generalizing s with
  | nil => rfl
  | cons a as ih =>
    rw [Runs.run_cons, ih, h]
    cases hb : image a with
    | none => rw [List.filterMap_cons_none hb, Option.elim_none]
    | some b => rw [List.filterMap_cons_some hb, Option.elim_some, Runs.run_cons]

/-! ### Actions that a machine admits -/

section Admission

variable (step' : T → A → T) (admits : T → A → Bool)

/-- The actions of a run that the machine admits, each in the state it finds. -/
def admitted : T → List A → List A
  | _, [] => []
  | t, a :: as =>
    if admits t a then a :: admitted (step' t a) as else admitted (step' t a) as

theorem admitted_append (t : T) (as bs : List A) : admitted step' admits t (as ++ bs) =
    admitted step' admits t as ++ admitted step' admits (Runs.run step' t as) bs := by
  induction as generalizing t with
  | nil => rfl
  | cons a as ih =>
    simp only [List.cons_append, admitted, Runs.run_cons, ih]
    split <;> rfl

variable {step' admits}

/-- Nothing is lost to those who see only actions that are always admitted. -/
theorem filterMap_admitted {B : Type*} {image : A → Option B}
    (h : ∀ t a, image a ≠ none → admits t a = true) (t : T) (as : List A) :
    (admitted step' admits t as).filterMap image = as.filterMap image := by
  induction as generalizing t with
  | nil => rfl
  | cons a as ih =>
    rw [admitted]
    split
    · simp only [List.filterMap_cons, ih]
    · next hnot =>
      have hnone : image a = none := by
        by_contra hsome
        exact hnot (h t a hsome)
      rw [ih, List.filterMap_cons_none hnone]

/-- A machine with a view of which every step is seen, and which takes the actions admitted in
view and no others, runs as if it were given those alone. -/
theorem run_admitted {step act : S → A → S} {view : S → T} {C : T → A → Prop}
    (hview : ∀ s a, view (step s a) = step' (view s) a)
    (hstep : ∀ s a, C (view s) a → step s a = if admits (view s) a then act s a else s) {s : S}
    {as : List A} (hrun : Runs.Guarded step' C (view s) as) :
    Runs.run step s as = Runs.run act s (admitted step' admits (view s) as) := by
  induction as generalizing s with
  | nil => rfl
  | cons a as ih =>
    obtain ⟨ha, hrest⟩ := Runs.guarded_cons.mp hrun
    rw [← hview] at hrest
    rw [Runs.run_cons, ih hrest, hview, admitted]
    by_cases hadmits : admits (view s) a
    · rw [if_pos hadmits, Runs.run_cons, hstep s a ha, if_pos hadmits]
    · rw [if_neg hadmits, hstep s a ha, if_neg hadmits]

end Admission

end Refinement
