import Mathlib.Data.List.TakeWhile

/-!
# Spans

A text is cut before the first of some stops. The cut is unique: `upTo_eq_iff` says that
any two pieces with no stop in the first and a stop, if anything, at the start of the second
are the ones that are found.
-/

namespace Spans

variable {α : Type*} {stops s t : List α} {c : α}

/-- None of the stops occurs. -/
def Free (stops s : List α) : Prop := ∀ c ∈ s, c ∉ stops

/-- The first element, if any, is one of the stops. -/
def StopsAt (stops s : List α) : Prop := ∀ c ∈ s.head?, c ∈ stops

@[simp] theorem free_nil : Free stops [] := by
  simp [Free]

@[simp] theorem free_cons : Free stops (c :: s) ↔ c ∉ stops ∧ Free stops s := by
  simp [Free]

@[simp] theorem free_append : Free stops (s ++ t) ↔ Free stops s ∧ Free stops t := by
  simp [Free, or_imp, forall_and]

@[simp] theorem stopsAt_nil : StopsAt stops [] := by
  simp [StopsAt]

@[simp] theorem stopsAt_cons : StopsAt stops (c :: s) ↔ c ∈ stops := by
  simp [StopsAt]

@[simp] theorem stopsAt_no_stops : StopsAt [] s ↔ s = [] := by
  cases s <;> simp

theorem StopsAt.mono {more : List α} (h : StopsAt stops s) (hmore : stops ⊆ more) :
    StopsAt more s :=
  fun c hc => hmore (h c hc)

/-- A piece without some of the stops begins, if at all, with one of the others. -/
theorem StopsAt.of_free {others fewer : List α} (h : StopsAt stops (s ++ t))
    (hfree : Free others s) (hfewer : ∀ c ∈ stops, c ∈ others ∨ c ∈ fewer) :
    StopsAt fewer s := by
  cases s with
  | nil => exact stopsAt_nil
  | cons c s =>
    have hc : c ∈ stops := stopsAt_cons.mp h
    exact stopsAt_cons.mpr ((hfewer c hc).resolve_left (free_cons.mp hfree).1)

/-- A text that does not begin with one stop begins with another, if at all. -/
theorem StopsAt.of_not_prefix (h : StopsAt (c :: stops) s) (hnot : ¬ [c] <+: s) :
    StopsAt stops s := by
  cases s with
  | nil => exact stopsAt_nil
  | cons d s =>
    rcases List.mem_cons.mp (stopsAt_cons.mp h) with rfl | hd
    · exact absurd (List.prefix_append [d] s) hnot
    · exact stopsAt_cons.mpr hd

theorem Free.mono {fewer : List α} (h : Free stops s) (hfewer : fewer ⊆ stops) : Free fewer s :=
  fun c hc hmem => h c hc (hfewer hmem)

variable [DecidableEq α]

instance : Decidable (Free stops s) := inferInstanceAs (Decidable (∀ c ∈ s, c ∉ stops))

/-- The elements before the first of `stops`, and the rest. -/
def upTo (stops s : List α) : List α × List α :=
  (s.takeWhile fun c => !stops.contains c, s.dropWhile fun c => !stops.contains c)

/-- The two pieces are the text. -/
theorem upTo_append (stops s : List α) : (upTo stops s).1 ++ (upTo stops s).2 = s :=
  List.takeWhile_append_dropWhile

theorem free_upTo (stops s : List α) : Free stops (upTo stops s).1 := by
  intro c hc
  simpa using List.mem_takeWhile_imp hc

theorem stopsAt_upTo (stops s : List α) : StopsAt stops (upTo stops s).2 := by
  intro c hc
  have hhead := List.head?_dropWhile_not (fun c => !stops.contains c) s
  rw [Option.mem_def, upTo] at hc
  rw [hc] at hhead
  simpa using hhead

/-- Pieces that fit together are found again. -/
theorem upTo_of (hs : Free stops s) (ht : StopsAt stops t) : upTo stops (s ++ t) = (s, t) := by
  induction s with
  | nil =>
    cases t with
    | nil => rfl
    | cons c t => simp [upTo, stopsAt_cons.mp ht]
  | cons c s ih =>
    obtain ⟨hc, hs⟩ := free_cons.mp hs
    have hpass : (!stops.contains c) = true := by simpa using hc
    obtain ⟨hfront, hrest⟩ := Prod.mk.inj (ih hs)
    simp only [upTo, List.cons_append, List.takeWhile_cons, List.dropWhile_cons, hpass, if_true,
      hfront, hrest]

/-- The pieces of a text. -/
theorem upTo_eq_iff {a b : List α} :
    upTo stops s = (a, b) ↔ s = a ++ b ∧ Free stops a ∧ StopsAt stops b := by
  constructor
  · intro h
    have hfree := free_upTo stops s
    have hstops := stopsAt_upTo stops s
    have happend := upTo_append stops s
    rw [h] at hfree hstops happend
    exact ⟨happend.symm, hfree, hstops⟩
  · rintro ⟨rfl, hfree, hstops⟩
    exact upTo_of hfree hstops

omit [DecidableEq α] in
/-- No stop stands in a piece of the text before one. -/
theorem prefix_of_append {lead : List α} (hlead : Free stops lead) (ht : StopsAt stops t)
    (h : lead <+: s ++ t) : lead <+: s := by
  induction lead generalizing s with
  | nil => exact List.nil_prefix
  | cons c lead ih =>
    obtain ⟨hc, hlead⟩ := free_cons.mp hlead
    cases s with
    | nil =>
      obtain ⟨rest, rfl⟩ := h
      exact absurd (stopsAt_cons.mp ht) hc
    | cons d s =>
      obtain ⟨rfl, hrest⟩ := List.cons_prefix_cons.mp h
      exact List.cons_prefix_cons.mpr ⟨rfl, ih hlead hrest⟩

omit [DecidableEq α] in
/-- A text without stops that begins with one is empty. -/
theorem StopsAt.eq_nil (h : StopsAt stops s) (hfree : Free stops s) : s = [] := by
  cases s with
  | nil => rfl
  | cons c s => exact absurd (stopsAt_cons.mp h) (free_cons.mp hfree).1

/-! ### Optional pieces -/

/-- An optional piece that `lead` opens and that ends before the first of `stops`, and the
rest. -/
def takeOpened (lead stops s : List α) : Option (List α) × List α :=
  if lead <+: s then
    (some (upTo stops (s.drop lead.length)).1, (upTo stops (s.drop lead.length)).2)
  else (none, s)

/-- The text of an optional piece. -/
def opened (lead : List α) (piece : Option (List α)) : List α := piece.elim [] (lead ++ ·)

/-- The piece and the rest are the only ones that fit. -/
theorem takeOpened_eq_iff {lead rest : List α} {piece : Option (List α)} :
    takeOpened lead stops s = (piece, rest) ↔ s = opened lead piece ++ rest ∧
      (∀ a ∈ piece, Free stops a ∧ StopsAt stops rest) ∧
      (piece = none → ¬ lead <+: rest) := by
  rw [takeOpened]
  by_cases hlead : lead <+: s
  · obtain ⟨after, rfl⟩ := hlead
    rw [if_pos (List.prefix_append lead after), List.drop_left, Prod.mk.injEq]
    cases piece with
    | none =>
      refine iff_of_false (by simp) ?_
      rintro ⟨hs, -, hnot⟩
      exact hnot rfl ⟨after, hs⟩
    | some a =>
      rw [Option.some_inj, ← Prod.mk.injEq, upTo_eq_iff]
      simp [opened]
  · rw [if_neg hlead, Prod.mk.injEq]
    cases piece with
    | none =>
      constructor
      · rintro ⟨-, rfl⟩
        exact ⟨rfl, by simp, fun _ => hlead⟩
      · rintro ⟨hs, -⟩
        exact ⟨rfl, hs⟩
    | some a =>
      refine iff_of_false (by simp) ?_
      rintro ⟨hs, -⟩
      exact hlead ⟨a ++ rest, by rw [hs]; simp [opened]⟩

/-! ### Pieces between separators -/

/-- A piece has what the text has, but for the separator. -/
theorem mem_of_mem_splitOn {piece : List α} {d : α} (h : piece ∈ s.splitOn c) (hd : d ∈ piece) :
    d ∈ s ∧ d ≠ c := by
  induction s generalizing piece with
  | nil =>
    rw [List.splitOn_nil, List.mem_singleton] at h
    simp [h] at hd
  | cons e s ih =>
    have hrest : ∀ {p : List α}, p ∈ s.splitOn c → d ∈ p → d ∈ e :: s ∧ d ≠ c := fun hp hdp =>
      (ih hp hdp).imp_left (List.mem_cons_of_mem e)
    rw [List.splitOn_cons_eq_if_modifyHead] at h
    split at h
    · rcases List.mem_cons.mp h with rfl | h
      · simp at hd
      · exact hrest h hd
    · next he =>
      obtain ⟨first, rest, hsplit⟩ := List.exists_cons_of_ne_nil (List.splitOn_ne_nil c s)
      rw [hsplit, List.modifyHead_cons] at h
      rw [hsplit] at hrest
      rcases List.mem_cons.mp h with rfl | h
      · rcases List.mem_cons.mp hd with rfl | hd
        · exact ⟨List.mem_cons_self, fun heq => he (by simp [heq])⟩
        · exact hrest List.mem_cons_self hd
      · exact hrest (List.mem_cons_of_mem _ h) hd

/-- The first piece ends at the first separator, if there is one. -/
theorem splitOn_cases (c : α) (s : List α) : (c ∉ s ∧ s.splitOn c = [s]) ∨
    ∃ first rest, s = first ++ c :: rest ∧ c ∉ first ∧
      s.splitOn c = first :: rest.splitOn c := by
  by_cases hc : c ∈ s
  · obtain ⟨first, rest, rfl, hfirst⟩ := List.eq_append_cons_of_mem hc
    exact .inr ⟨first, rest, rfl, hfirst, List.splitOn_append_cons_self_of_not_mem hfirst rest⟩
  · exact .inl ⟨hc, List.splitOn_eq_singleton hc⟩

/-- What the first piece of a text is. -/
theorem head_splitOn {first : List α} : (s.splitOn c).head? = some first ↔
    c ∉ first ∧ ∃ rest, s = first ++ rest ∧ StopsAt [c] rest := by
  constructor
  · intro h
    rcases splitOn_cases c s with ⟨hc, hsplit⟩ | ⟨before, rest, rfl, hc, hsplit⟩
    · rw [hsplit] at h
      cases h
      exact ⟨hc, [], by simp, stopsAt_nil⟩
    · rw [hsplit] at h
      cases h
      exact ⟨hc, c :: rest, rfl, by simp⟩
  · rintro ⟨hc, rest, rfl, hrest⟩
    cases rest with
    | nil => rw [List.append_nil, List.splitOn_eq_singleton hc, List.head?_cons]
    | cons d rest =>
      cases List.mem_singleton.mp (stopsAt_cons.mp hrest)
      rw [List.splitOn_append_cons_self_of_not_mem hc, List.head?_cons]

end Spans
