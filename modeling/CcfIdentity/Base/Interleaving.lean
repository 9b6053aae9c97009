import CcfIdentity.Base.Footprint

/-!
# Interleaved scripts

Two scripts of operations share a state and are run in some order that keeps each script's
own. Where every operation of the one commutes with every operation of the other, each
script gets the results it gets alone, and the state is the one that running the first and
then the second leaves.
-/

namespace Interleaving

variable {S A R : Type*}

/-- The results of a script and the state it leaves. -/
def runAll (op : S → A → R × S) (s : S) : List A → List R × S
  | [] => ([], s)
  | a :: as => ((op s a).1 :: (runAll op (op s a).2 as).1, (runAll op (op s a).2 as).2)

/-- The results of both scripts and the state they leave, in the order of the schedule. -/
def runBoth (op : S → A → R × S) (s : S) : List (A ⊕ A) → (List R × List R) × S
  | [] => (([], []), s)
  | .inl a :: schedule =>
    (((op s a).1 :: (runBoth op (op s a).2 schedule).1.1,
      (runBoth op (op s a).2 schedule).1.2), (runBoth op (op s a).2 schedule).2)
  | .inr b :: schedule =>
    (((runBoth op (op s b).2 schedule).1.1,
      (op s b).1 :: (runBoth op (op s b).2 schedule).1.2), (runBoth op (op s b).2 schedule).2)

/-- The first script of a schedule. -/
def lefts (schedule : List (A ⊕ A)) : List A := schedule.filterMap Sum.getLeft?

/-- The second script of a schedule. -/
def rights (schedule : List (A ⊕ A)) : List A := schedule.filterMap Sum.getRight?

variable {op : S → A → R × S} {I : S → Prop}

-- An operation can be moved past a script that it commutes with.
private theorem runAll_past (hI : ∀ s a, I s → I (op s a).2) {a : A} {bs : List A}
    (h : ∀ b ∈ bs, ∀ s, I s → Footprint.Commute (op · a) (op · b) s) {s : S} (hs : I s) :
    runAll op (op s a).2 bs = ((runAll op s bs).1, (op (runAll op s bs).2 a).2) ∧
      (op (runAll op s bs).2 a).1 = (op s a).1 := by
  induction bs generalizing s with
  | nil => exact ⟨rfl, rfl⟩
  | cons b bs ih =>
    have hb : Footprint.Commute (op · a) (op · b) s := h b List.mem_cons_self s hs
    obtain ⟨hrest, hresult⟩ :=
      ih (fun c hc => h c (List.mem_cons_of_mem _ hc)) (hI s b hs)
    have hstate : (op (op s a).2 b).2 = (op (op s b).2 a).2 := hb.state
    have hright : (op (op s a).2 b).1 = (op s b).1 := hb.right
    simp only [runAll, hstate, hright, hrest, hresult, true_and]
    exact hb.left

/-- Each script of a schedule gets the results it gets alone, and the state is that of one
script after the other. -/
theorem runBoth_of_commute (hI : ∀ s a, I s → I (op s a).2) {schedule : List (A ⊕ A)}
    (h : ∀ a ∈ lefts schedule, ∀ b ∈ rights schedule, ∀ s, I s →
      Footprint.Commute (op · a) (op · b) s) {s : S} (hs : I s) :
    runBoth op s schedule =
      (((runAll op s (lefts schedule)).1, (runAll op s (rights schedule)).1),
        (runAll op (runAll op s (lefts schedule)).2 (rights schedule)).2) := by
  induction schedule generalizing s with
  | nil => rfl
  | cons tagged schedule ih =>
    cases tagged with
    | inl a =>
      have hl : lefts (.inl a :: schedule) = a :: lefts schedule := rfl
      have hr : rights (.inl a :: schedule) = rights schedule := rfl
      rw [hl, hr] at h ⊢
      have hrest := ih (fun c hc => h c (List.mem_cons_of_mem _ hc)) (hI s a hs)
      have hpast := (runAll_past hI (h a List.mem_cons_self) hs).1
      simp only [runBoth, runAll, hrest, hpast]
    | inr b =>
      have hl : lefts (.inr b :: schedule) = lefts schedule := rfl
      have hr : rights (.inr b :: schedule) = b :: rights schedule := rfl
      rw [hl, hr] at h ⊢
      have hrest := ih (fun c hc d hd => h c hc d (List.mem_cons_of_mem _ hd)) (hI s b hs)
      have hpast := runAll_past hI
        (fun c hc t ht => (h c hc b List.mem_cons_self t ht).symm) hs
      simp only [runBoth, runAll, hrest, hpast.1, hpast.2]

end Interleaving
