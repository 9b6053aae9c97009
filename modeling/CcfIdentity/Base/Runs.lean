import Mathlib.Data.List.Induction

/-!
# Finite runs of a transition function

Runs of an arbitrary total step function, invariants of every reachable state, and
properties of every state along one run. `throughout_iff_guarded` turns an exact
one-step precondition into an exact condition on whole runs.
-/

namespace Runs

variable {S A : Type*} (step : S → A → S)

/-- The state after a finite sequence of actions, taken from left to right. -/
def run (s : S) (as : List A) : S := as.foldl step s

/-- Some finite sequence of actions leads from `init` to `s`. -/
def Reachable (init s : S) : Prop := ∃ as, run step init as = s

/-- `P` holds in every state the run visits, its first and its last included. -/
def Throughout (P : S → Prop) (s : S) (as : List A) : Prop :=
  ∀ done, done <+: as → P (run step s done)

/-- Every action of the run is taken in a state where its guard holds. -/
def Guarded (C : S → A → Prop) (s : S) (as : List A) : Prop :=
  ∀ done a, done ++ [a] <+: as → C (run step s done) a

/-- Some action of the run brings the matter about, and no action after it ends it. -/
def Since (sets ends : S → A → Prop) (s : S) (as : List A) : Prop :=
  ∃ before a after, as = before ++ a :: after ∧ sets (run step s before) a ∧
    Guarded step (fun s b => ¬ ends s b) (run step s (before ++ [a])) after

/-- The empty run stays where it is. -/
@[simp] theorem run_nil (s : S) : run step s [] = s := rfl

/-- The first action is taken first. -/
@[simp] theorem run_cons (s : S) (a : A) (as : List A) :
    run step s (a :: as) = run step (step s a) as := rfl

/-- Runs compose. -/
theorem run_append (s : S) (as bs : List A) :
    run step s (as ++ bs) = run step (run step s as) bs := List.foldl_append

/-- The last action is taken last. -/
theorem run_concat (s : S) (as : List A) (a : A) :
    run step s (as ++ [a]) = step (run step s as) a := by
  rw [run_append, run_cons, run_nil]

/-- An action that changes nothing can be repeated. -/
theorem run_replicate {s : S} {a : A} (h : step s a = s) (n : Nat) :
    run step s (List.replicate n a) = s := by
  induction n with
  | zero => rfl
  | succ n ih => rw [List.replicate_succ, run_cons, h, ih]

/-- Every run ends in a reachable state. -/
theorem reachable_run (s : S) (as : List A) : Reachable step s (run step s as) := ⟨as, rfl⟩

section Invariants

variable {step}

/-- What every action of a run preserves, the run preserves. -/
theorem run_preserves_of {I : S → Prop} {as : List A}
    (hstep : ∀ a ∈ as, ∀ s, I s → I (step s a)) {s : S} (hs : I s) : I (run step s as) := by
  induction as generalizing s with
  | nil => exact hs
  | cons a as ih =>
    apply ih (fun b hb => hstep b (List.mem_cons_of_mem _ hb))
    exact hstep a List.mem_cons_self s hs

/-- What every step preserves, a run preserves. -/
theorem run_preserves {I : S → Prop} (hstep : ∀ s a, I s → I (step s a)) {s : S} (hs : I s)
    (as : List A) : I (run step s as) :=
  run_preserves_of (fun a _ s => hstep s a) hs

/-- What holds initially and is preserved by one step holds in every reachable state. -/
theorem invariant {I : S → Prop} (hstep : ∀ s a, I s → I (step s a)) {init s : S}
    (hinit : I init) (hs : Reachable step init s) : I s := by
  obtain ⟨as, rfl⟩ := hs
  exact run_preserves hstep hinit as

/-- With an exact one-step precondition `C` for `P`, the runs throughout which `P` holds are
exactly those guarded by `C`. -/
theorem throughout_iff_guarded {P : S → Prop} {C : S → A → Prop}
    (hC : ∀ s a, P s → (P (step s a) ↔ C s a)) {s : S} (hP : P s) (as : List A) :
    Throughout step P s as ↔ Guarded step C s as := by
  constructor
  · intro hall done a hpre
    have hbefore : P (run step s done) := hall done ((List.prefix_append done [a]).trans hpre)
    have hafter : P (step (run step s done) a) := by
      rw [← run_concat step s done a]
      exact hall _ hpre
    exact (hC _ a hbefore).mp hafter
  · intro hguard done
    induction done using List.reverseRecOn with
    | nil => exact fun _ => hP
    | append_singleton done a ih =>
      intro hpre
      have hbefore : P (run step s done) := ih ((List.prefix_append done [a]).trans hpre)
      rw [run_concat]
      exact (hC _ a hbefore).mpr (hguard done a hpre)

/-- A property that starts false and ends true is switched on by some action of the run. -/
theorem exists_switch {Q : S → Prop} {s : S} {as : List A} (hs : ¬ Q s)
    (has : Q (run step s as)) :
    ∃ done a, done ++ [a] <+: as ∧ ¬ Q (run step s done) ∧ Q (step (run step s done) a) := by
  induction as using List.reverseRecOn with
  | nil => exact absurd has hs
  | append_singleton as a ih =>
    by_cases hq : Q (run step s as)
    · obtain ⟨done, b, hpre, hnot, hyes⟩ := ih hq
      exact ⟨done, b, hpre.trans (List.prefix_append as [a]), hnot, hyes⟩
    · rw [run_concat] at has
      exact ⟨as, a, List.prefix_rfl, hq, has⟩

/-- An extended run is guarded when it was and its last action meets its guard. -/
theorem guarded_concat {C : S → A → Prop} {s : S} {as : List A} {a : A} :
    Guarded step C s (as ++ [a]) ↔ Guarded step C s as ∧ C (run step s as) a := by
  constructor
  · intro h
    exact ⟨fun done b hpre => h done b (hpre.trans (List.prefix_append as [a])),
      h as a List.prefix_rfl⟩
  · rintro ⟨hbefore, ha⟩ done b hpre
    rcases List.prefix_concat_iff.mp hpre with heq | hpre
    · obtain ⟨rfl, hb⟩ := List.append_inj' heq rfl
      cases hb
      exact ha
    · exact hbefore done b hpre

theorem guarded_nil {C : S → A → Prop} {s : S} : Guarded step C s [] :=
  fun done b hpre => absurd hpre (by simp)

/-- A run is guarded when its first action meets its guard and the rest is guarded. -/
theorem guarded_cons {C : S → A → Prop} {s : S} {a : A} {as : List A} :
    Guarded step C s (a :: as) ↔ C s a ∧ Guarded step C (step s a) as := by
  constructor
  · intro h
    refine ⟨h [] a ⟨as, rfl⟩, fun done b hpre => ?_⟩
    exact h (a :: done) b ((List.prefix_cons_inj a).mpr hpre)
  · rintro ⟨ha, hrest⟩ done b hpre
    cases done with
    | nil =>
      obtain ⟨rfl, -⟩ := List.cons_prefix_cons.mp hpre
      exact ha
    | cons c done =>
      rw [List.cons_append] at hpre
      obtain ⟨rfl, htail⟩ := List.cons_prefix_cons.mp hpre
      exact hrest done b htail

/-! ### What has been brought about and not ended since -/

/-- The last action brings the matter about, or leaves it as it has been brought about. -/
theorem since_concat {sets ends : S → A → Prop} {s : S} {as : List A} {a : A} :
    Since step sets ends s (as ++ [a]) ↔ sets (run step s as) a ∨
      Since step sets ends s as ∧ ¬ ends (run step s as) a := by
  constructor
  · rintro ⟨before, b, after, hsplit, hsets, hkept⟩
    rcases List.eq_nil_or_concat after with rfl | ⟨after, c, rfl⟩
    · obtain ⟨rfl, hb⟩ := List.append_inj' hsplit rfl
      cases hb
      exact .inl hsets
    · rw [List.concat_eq_append] at hsplit hkept
      rw [← List.cons_append, ← List.append_assoc] at hsplit
      obtain ⟨rfl, hc⟩ := List.append_inj' hsplit rfl
      cases hc
      obtain ⟨hkept, hlast⟩ := guarded_concat.mp hkept
      rw [← run_append, List.append_assoc, List.singleton_append] at hlast
      exact .inr ⟨⟨before, b, after, rfl, hsets, hkept⟩, hlast⟩
  · rintro (hsets | ⟨⟨before, b, after, rfl, hsets, hkept⟩, hlast⟩)
    · exact ⟨as, a, [], rfl, hsets, guarded_nil⟩
    · refine ⟨before, b, after ++ [a], by simp, hsets, guarded_concat.mpr ⟨hkept, ?_⟩⟩
      rwa [← run_append, List.append_assoc, List.singleton_append]

/-- A guard that does not depend on the state is one of every action. -/
theorem guarded_const {C : A → Prop} {s : S} {as : List A} :
    Guarded step (fun _ a => C a) s as ↔ ∀ a ∈ as, C a := by
  constructor
  · intro h a ha
    obtain ⟨before, after, rfl⟩ := List.append_of_mem ha
    exact h before a ⟨after, by simp⟩
  · intro h done a hpre
    exact h a (hpre.subset (by simp))

/-- What holds after a run from a state without it is what the run has brought about and not
ended since, where one step says so in the states of an invariant. -/
theorem iff_since {I Q : S → Prop} {sets ends : S → A → Prop}
    (hI : ∀ s a, I s → I (step s a))
    (hstep : ∀ s a, I s → (Q (step s a) ↔ sets s a ∨ Q s ∧ ¬ ends s a)) {s : S} (hs : I s)
    (hnot : ¬ Q s) (as : List A) : Q (run step s as) ↔ Since step sets ends s as := by
  induction as using List.reverseRecOn with
  | nil =>
    apply iff_of_false hnot
    rintro ⟨before, a, after, hsplit, -⟩
    simp at hsplit
  | append_singleton as a ih =>
    rw [run_concat, hstep _ a (run_preserves hI hs as), since_concat, ih]

end Invariants

end Runs
