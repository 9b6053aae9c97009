import CcfIdentity.Base.Interleaving
import CcfIdentity.Network.Commutation

/-!
# Two administrators

Two administrators work on the same tables at the same time, each with a script of calls of
its own. Where the calls of the one are independent of the calls of the other, no schedule of
the two can be told from the one script followed by the other, neither from the answers nor
from the tables.
-/

open Utf16

namespace CcfIdentity

/-- From every reachable state and in every schedule, two administrators with independent
scripts each get the answers they get alone, and leave the tables that one script after the
other leaves. -/
theorem independent_scripts {s : Store} (hs : Runs.Reachable step Store.empty s)
    {schedule : List (RbacCall ⊕ RbacCall)}
    (h : ∀ c ∈ Interleaving.lefts schedule, ∀ d ∈ Interleaving.rights schedule,
      Independent c d) :
    Interleaving.runBoth perform s schedule =
      (((Interleaving.runAll perform s (Interleaving.lefts schedule)).1,
          (Interleaving.runAll perform s (Interleaving.rights schedule)).1),
        (Interleaving.runAll perform
          (Interleaving.runAll perform s (Interleaving.lefts schedule)).2
          (Interleaving.rights schedule)).2) := by
  apply Interleaving.runBoth_of_commute (I := Keyed) _ _ (keyed_reachable hs)
  · exact fun t call ht => keyed_step t (.rbac call) ht
  · intro c hc d hd t ht
    rcases h c hc d hd with hapart | hapart
    · exact apart_commute ht hapart
    · exact (apart_commute ht hapart).symm

/-- One administrator sets up a role while the other takes over a principal. -/
def twoScripts : List (RbacCall ⊕ RbacCall) :=
  [.inl (.addRole ⟨text "admin", text "Admin", none⟩),
    .inr (.removePrincipalFromRole (text "writer") (text "u")),
    .inl (.addAction (text "admin") (text "/app/roles") .allowed),
    .inr (.assignPrincipalToRole (text "writer") (text "u"))]

/-- The schedule leads to the same tables as the one script followed by the other. -/
theorem twoScripts_apart :
    (Interleaving.runBoth perform (Runs.run step Store.empty readerAndWriter) twoScripts).2 =
      (Interleaving.runAll perform
        (Interleaving.runAll perform (Runs.run step Store.empty readerAndWriter)
          (Interleaving.lefts twoScripts)).2 (Interleaving.rights twoScripts)).2 := by
  have hapart : ∀ c ∈ Interleaving.lefts twoScripts, ∀ d ∈ Interleaving.rights twoScripts,
      Independent c d := by
    have hother : text "admin" ≠ text "writer" := by decide
    intro c hc d hd
    simp only [twoScripts, Interleaving.lefts, Interleaving.rights, List.filterMap,
      Sum.getLeft?, Sum.getRight?, List.mem_cons, List.not_mem_nil, or_false] at hc hd
    rcases hc with rfl | rfl
    · rcases hd with rfl | rfl <;> exact .inl (.addRole rfl hother)
    · rcases hd with rfl | rfl <;> exact .inl (.addAction _ _ _ rfl)
  rw [independent_scripts (Runs.reachable_run step Store.empty readerAndWriter) hapart]

end CcfIdentity
