import Mathlib.Logic.Basic

/-!
# Programs that may throw

Programs over a state that return or throw and leave a state in either case: what is
written before a throw is in the state it leaves. `commit` is the transaction around a
program, which discards those writes. `Keeps` is an invariant of every exit, and `on` runs
a program on a component of a larger state.
-/

/-- A program over the states `S` with exceptions `F`. -/
def Program (F S α : Type) := S → Except F α × S

namespace Program

variable {F S T α β : Type}

/-- Go on from an exit of the first part. -/
def andThen (exit : Except F α × S) (f : α → Program F S β) : Except F β × S :=
  match exit with
  | (.ok a, s) => f a s
  | (.error e, s) => (.error e, s)

instance : Monad (Program F S) where
  pure a s := (.ok a, s)
  bind m f s := andThen (m s) f

/-- Stop with an exception. -/
def throw (e : F) : Program F S α := fun s => (.error e, s)

/-- Read off the state. -/
def read (f : S → α) : Program F S α := fun s => (.ok (f s), s)

/-- Change the state. -/
def write (f : S → S) : Program F S Unit := fun s => (.ok (), f s)

/-- Go on with the value of a computation that does not use the state. -/
def check (r : Except F α) : Program F S α := fun s => (r, s)

/-- Visit the elements of a list from left to right. -/
def forEach (visit : α → Program F S Unit) : List α → Program F S Unit
  | [] => pure ()
  | a :: rest => do
    visit a
    forEach visit rest

/-- Run a program on a component of the state. -/
def on (part : S → T) (put : T → S → S) (m : Program F T α) : Program F S α :=
  fun s => ((m (part s)).1, put (m (part s)).2 s)

/-- The transaction around a program: a throw discards what was written before it. -/
def commit (m : Program F S α) (s : S) : S :=
  match m s with
  | (.ok _, s') => s'
  | (.error _, _) => s

/-- A sequence of computations that use no state returns where both do. -/
theorem except_bind_eq_ok {m : Except F α} {f : α → Except F β} {b : β} :
    (m >>= f) = .ok b ↔ ∃ a, m = .ok a ∧ f a = .ok b := by
  cases m with
  | ok a =>
    constructor
    · exact fun h => ⟨a, rfl, h⟩
    · rintro ⟨_, hm, h⟩
      cases hm
      exact h
  | error e =>
    constructor
    · exact fun h => by cases h
    · rintro ⟨_, hm, -⟩
      cases hm

/-- A computation with its value changed returns where it does itself. -/
theorem except_map_eq_ok {m : Except F α} {f : α → β} {b : β} :
    f <$> m = .ok b ↔ ∃ a, m = .ok a ∧ f a = b := by
  cases m with
  | ok a =>
    constructor
    · exact fun h => ⟨a, rfl, Except.ok.inj h⟩
    · rintro ⟨_, hm, rfl⟩
      cases hm
      rfl
  | error e =>
    constructor
    · exact fun h => by cases h
    · rintro ⟨_, hm, -⟩
      cases hm

/-! ### Execution -/

@[simp] theorem andThen_ok (a : α) (s : S) (f : α → Program F S β) :
    andThen (.ok a, s) f = f a s := rfl

@[simp] theorem andThen_error (e : F) (s : S) (f : α → Program F S β) :
    andThen (.error e, s) f = (.error e, s) := rfl

@[simp] theorem bind_apply (m : Program F S α) (f : α → Program F S β) (s : S) :
    (m >>= f) s = andThen (m s) f := rfl

@[simp] theorem pure_apply (a : α) (s : S) : (pure a : Program F S α) s = (.ok a, s) := rfl

@[simp] theorem throw_apply (e : F) (s : S) :
    (throw e : Program F S α) s = (.error e, s) := rfl

@[simp] theorem read_apply (f : S → α) (s : S) :
    (read f : Program F S α) s = (.ok (f s), s) := rfl

@[simp] theorem write_apply (f : S → S) (s : S) :
    (write f : Program F S Unit) s = (.ok (), f s) := rfl

@[simp] theorem check_apply (r : Except F α) (s : S) :
    (check r : Program F S α) s = (r, s) := rfl

@[simp] theorem on_apply (part : S → T) (put : T → S → S) (m : Program F T α) (s : S) :
    on part put m s = ((m (part s)).1, put (m (part s)).2 s) := rfl

@[simp] theorem ite_apply (c : Prop) [Decidable c] (m n : Program F S α) (s : S) :
    (if c then m else n) s = if c then m s else n s := by
  split <;> rfl

theorem read_bind (g : S → α) (f : α → Program F S β) (s : S) :
    (read g >>= f) s = f (g s) s := rfl

theorem write_bind (g : S → S) (f : Unit → Program F S β) (s : S) :
    (write g >>= f) s = f () (g s) := rfl

/-- A sequence returns where both parts do, one after the other. -/
theorem bind_eq_ok {m : Program F S α} {f : α → Program F S β} {s s'' : S} {b : β} :
    (m >>= f) s = (.ok b, s'') ↔ ∃ a s', m s = (.ok a, s') ∧ f a s' = (.ok b, s'') := by
  rw [bind_apply]
  rcases m s with ⟨r, s'⟩
  cases r with
  | ok a =>
    constructor
    · exact fun h => ⟨a, s', rfl, h⟩
    · rintro ⟨_, _, hexit, h⟩
      cases hexit
      exact h
  | error e => simp

/-- A program with a check at its start returns where the check passes and the rest does. -/
theorem check_bind_eq_ok {r : Except F α} {f : α → Program F S β} {s s' : S} {b : β} :
    (check r >>= f) s = (.ok b, s') ↔ ∃ a, r = .ok a ∧ f a s = (.ok b, s') := by
  rw [bind_apply, check_apply]
  cases r with
  | ok a =>
    constructor
    · exact fun h => ⟨a, rfl, h⟩
    · rintro ⟨_, hr, h⟩
      cases hr
      exact h
  | error e => simp

/-- A check returns where it passes. -/
theorem check_eq_ok {r : Except F α} {s s' : S} {a : α} :
    (check r : Program F S α) s = (.ok a, s') ↔ r = .ok a ∧ s = s' := by
  rw [check_apply, Prod.mk.injEq]

/-- A program returns where it writes and nowhere throws. -/
theorem write_eq_ok {g : S → S} {s s' : S} :
    (write g : Program F S Unit) s = (.ok (), s') ↔ g s = s' := by
  rw [write_apply, Prod.mk.injEq, eq_self, true_and]

/-- The transaction of a program that returns. -/
theorem commit_of_ok {m : Program F S α} {s s' : S} {a : α} (h : m s = (.ok a, s')) :
    m.commit s = s' := by
  rw [commit, h]

/-- A program on a component returns where it does on the component alone. -/
theorem on_eq_ok {part : S → T} {put : T → S → S} {m : Program F T α} {s s' : S} {a : α} :
    on part put m s = (.ok a, s') ↔ ∃ t, m (part s) = (.ok a, t) ∧ put t s = s' := by
  rw [on_apply, Prod.mk.injEq]
  constructor
  · rintro ⟨hok, hput⟩
    exact ⟨_, Prod.ext hok rfl, hput⟩
  · rintro ⟨t, hm, hput⟩
    rw [hm]
    exact ⟨rfl, hput⟩

/-- A loop of changes makes them one after another. -/
theorem forEach_write (f : α → S → S) (as : List α) (s : S) :
    (forEach (fun a => write (f a)) as : Program F S Unit) s =
      (.ok (), as.foldl (fun s a => f a s) s) := by
  induction as generalizing s with
  | nil => rfl
  | cons a rest ih => exact ih (f a s)

/-- A loop that changes the state for some elements only. -/
theorem forEach_write_if (c : α → Prop) [DecidablePred c] (f : α → S → S) (as : List α) (s : S) :
    (forEach (fun a => if c a then write (f a) else pure ()) as : Program F S Unit) s =
      (.ok (), as.foldl (fun s a => if c a then f a s else s) s) := by
  induction as generalizing s with
  | nil => rfl
  | cons a rest ih =>
    rw [forEach, bind_apply, ite_apply, List.foldl_cons]
    by_cases ha : c a
    · rw [if_pos ha, if_pos ha, write_apply, andThen_ok, ih]
    · rw [if_neg ha, if_neg ha, pure_apply, andThen_ok, ih]

/-! ### Invariants -/

/-- What holds before the program holds after it, whether it returns or throws. -/
def Keeps (I : S → Prop) (m : Program F S α) : Prop := ∀ s, I s → I (m s).2

section Keeps

variable {I : S → Prop}

theorem keeps_throw (e : F) : Keeps I (throw e : Program F S α) := fun _ hs => hs

theorem keeps_pure (a : α) : Keeps I (pure a : Program F S α) := fun _ hs => hs

theorem keeps_read (f : S → α) : Keeps I (read f : Program F S α) := fun _ hs => hs

theorem keeps_write {f : S → S} (h : ∀ s, I s → I (f s)) : Keeps I (write (F := F) f) := h

/-- An invariant of both branches is one of the choice. -/
theorem keeps_ite {c : Prop} [Decidable c] {m n : Program F S α} (hm : Keeps I m)
    (hn : Keeps I n) : Keeps I (if c then m else n) := by
  split
  · exact hm
  · exact hn

/-- An invariant of both parts is one of the whole. -/
theorem keeps_bind {m : Program F S α} {f : α → Program F S β} (hm : Keeps I m)
    (hf : ∀ a, Keeps I (f a)) : Keeps I (m >>= f) := by
  intro s hs
  have hmid := hm s hs
  rw [bind_apply]
  rcases hexit : m s with ⟨r, s'⟩
  rw [hexit] at hmid
  cases r with
  | ok a => exact hf a s' hmid
  | error e => exact hmid

/-- What follows a write starts from what the write keeps. -/
theorem keeps_write_bind {f : S → S} {g : Unit → Program F S β} (hf : ∀ s, I s → I (f s))
    (hg : ∀ u, Keeps I (g u)) : Keeps I (write f >>= g) :=
  keeps_bind (keeps_write hf) hg

/-- What follows a check can rely on its value. -/
theorem keeps_check_bind {r : Except F α} {f : α → Program F S β}
    (h : ∀ a, r = .ok a → Keeps I (f a)) : Keeps I (check r >>= f) := by
  cases r with
  | ok a => exact h a rfl
  | error e => exact keeps_throw e

/-- A check writes nothing. -/
theorem keeps_check (r : Except F α) : Keeps I (check r : Program F S α) := fun _ hs => hs

/-- An invariant of every visit is one of the loop. -/
theorem keeps_forEach {visit : α → Program F S Unit} {as : List α}
    (h : ∀ a ∈ as, Keeps I (visit a)) : Keeps I (forEach visit as) := by
  induction as with
  | nil => exact keeps_pure ()
  | cons a rest ih =>
    exact keeps_bind (h a List.mem_cons_self) fun _ =>
      ih fun b hb => h b (List.mem_cons_of_mem _ hb)

end Keeps

/-! ### Programs that only read -/

/-- The program writes nothing, whether it returns or throws. -/
def ReadOnly (m : Program F S α) : Prop := ∀ s, (m s).2 = s

theorem readOnly_throw (e : F) : ReadOnly (throw e : Program F S α) := fun _ => rfl

theorem readOnly_pure (a : α) : ReadOnly (pure a : Program F S α) := fun _ => rfl

theorem readOnly_read (f : S → α) : ReadOnly (read f : Program F S α) := fun _ => rfl

theorem readOnly_check (r : Except F α) : ReadOnly (check r : Program F S α) := fun _ => rfl

theorem readOnly_ite {c : Prop} [Decidable c] {m n : Program F S α} (hm : ReadOnly m)
    (hn : ReadOnly n) : ReadOnly (if c then m else n) := by
  split
  · exact hm
  · exact hn

theorem readOnly_bind {m : Program F S α} {f : α → Program F S β} (hm : ReadOnly m)
    (hf : ∀ a, ReadOnly (f a)) : ReadOnly (m >>= f) := by
  intro s
  have hmid := hm s
  rw [bind_apply]
  rcases hexit : m s with ⟨r, s'⟩
  rw [hexit] at hmid
  obtain rfl : s' = s := hmid
  cases r with
  | ok a => exact hf a s'
  | error e => rfl

/-- The transaction around a program that only reads. -/
theorem commit_readOnly {m : Program F S α} (h : ReadOnly m) (s : S) : m.commit s = s := by
  have hsame := h s
  rw [commit]
  rcases hexit : m s with ⟨r, s'⟩
  rw [hexit] at hsame
  cases r with
  | ok a => exact hsame
  | error e => rfl

/-! ### Transactions -/

/-- A transaction goes on from a part that returns and writes nothing. -/
theorem commit_bind_of_ok {m : Program F S α} {s : S} {a : α} (h : m s = (.ok a, s))
    (f : α → Program F S β) : (m >>= f).commit s = (f a).commit s := by
  rw [commit, commit, bind_apply, h, andThen_ok]

/-- A transaction has no effect where a part throws. -/
theorem commit_bind_of_error {m : Program F S α} {s s' : S} {e : F} (h : m s = (.error e, s'))
    (f : α → Program F S β) : (m >>= f).commit s = s := by
  rw [commit, bind_apply, h, andThen_error]

/-- A transaction with a check at its start has an effect only where the check passes. -/
theorem commit_check_bind (r : Except F α) (f : α → Program F S β) (s : S) :
    (check r >>= f).commit s = r.toOption.elim s fun a => (f a).commit s := by
  cases r <;> rfl

/-- What is made of the value does not matter. -/
theorem commit_map (f : α → β) (m : Program F S α) (s : S) : (f <$> m).commit s = m.commit s := by
  have hmap : (f <$> m) s = andThen (m s) fun a => pure (f a) := rfl
  rw [commit, commit, hmap]
  rcases m s with ⟨r, s'⟩
  cases r <;> rfl

end Program
