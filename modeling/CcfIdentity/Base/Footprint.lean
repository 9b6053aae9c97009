import Mathlib.Data.Set.Basic

/-!
# Operations with bounded footprints

An operation returns a result with the state it leaves, and the state is made of cells. Two
operations that write different cells, neither of them seeing what the other writes, can be
run in either order.
-/

namespace Footprint

variable {S R Q Cell : Type*} {V : Cell → Type*}

/-- Either order leads to the same state and gives each operation the same result. -/
structure Commute (f : S → R × S) (g : S → Q × S) (s : S) : Prop where
  state : (g (f s).2).2 = (f (g s).2).2
  left : (f (g s).2).1 = (f s).1
  right : (g (f s).2).1 = (g s).1

/-- In the states `I` the operation writes no cells but these, and what it returns and writes
is the same in any two states that agree on what it sees. -/
structure Bounded (read : S → (c : Cell) → V c) (I : S → Prop) (op : S → R × S)
    (sees : S → S → Prop) (writes : Set Cell) : Prop where
  frame : ∀ s, I s → ∀ c, c ∉ writes → read (op s).2 c = read s c
  result : ∀ s s', I s → I s' → sees s s' → (op s').1 = (op s).1
  written : ∀ s s', I s → I s' → sees s s' → ∀ c ∈ writes, read (op s').2 c = read (op s).2 c

/-- The order of the two operations is of no account. -/
theorem Commute.symm {f : S → R × S} {g : S → Q × S} {s : S} (h : Commute f g s) :
    Commute g f s := ⟨h.state.symm, h.right, h.left⟩

variable {read : S → (c : Cell) → V c} {I : S → Prop} {f : S → R × S} {g : S → Q × S}
  {seesF seesG : S → S → Prop} {writesF writesG : Set Cell} {s : S}

-- A cell the first operation writes holds the same value whether the other ran before or after.
private theorem read_comm (hf : Bounded read I f seesF writesF)
    (hg : Bounded read I g seesG writesG) (hs : I s) (hfs : I (f s).2) (hgs : I (g s).2)
    (hsees : seesF s (g s).2) {c : Cell} (hc : c ∈ writesF) (hother : c ∉ writesG) :
    read (g (f s).2).2 c = read (f (g s).2).2 c :=
  calc
    read (g (f s).2).2 c = read (f s).2 c := hg.frame _ hfs c hother
    _ = read (f (g s).2).2 c := (hf.written s _ hs hgs hsees c hc).symm

/-- Operations that write different cells and do not see each other's writes commute. -/
theorem commute_of_disjoint (hext : ∀ s s', (∀ c, read s c = read s' c) → s = s')
    (hf : Bounded read I f seesF writesF) (hg : Bounded read I g seesG writesG)
    (hdisjoint : ∀ c ∈ writesF, c ∉ writesG) (hs : I s) (hfs : I (f s).2) (hgs : I (g s).2)
    (hseesF : seesF s (g s).2) (hseesG : seesG s (f s).2) : Commute f g s where
  state := by
    apply hext
    intro c
    by_cases hcf : c ∈ writesF
    · exact read_comm hf hg hs hfs hgs hseesF hcf (hdisjoint c hcf)
    · by_cases hcg : c ∈ writesG
      · exact (read_comm hg hf hs hgs hfs hseesG hcg hcf).symm
      · calc
          read (g (f s).2).2 c = read (f s).2 c := hg.frame _ hfs c hcg
          _ = read s c := hf.frame s hs c hcf
          _ = read (g s).2 c := (hg.frame s hs c hcg).symm
          _ = read (f (g s).2).2 c := (hf.frame _ hgs c hcf).symm
  left := hf.result s _ hs hgs hseesF
  right := hg.result s _ hs hfs hseesG

end Footprint
