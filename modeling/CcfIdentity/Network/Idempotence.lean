import CcfIdentity.Network.Steps
import CcfIdentity.Rbac.Grants
import Mathlib.Data.List.Nodup

/-!
# Repeated grants

`assignPrincipalToRole` pushes the role without looking whether it is listed already. The
entries stay free of repetitions exactly along the runs that never grant a role to one of
its holders, and a grant can be repeated without effect exactly where it writes no list.
-/

open Utf16

namespace CcfIdentity

/-- The strings among the elements of a list. -/
def roleIds (roles : List Json) : List Text :=
  roles.filterMap fun
    | .str r => some r
    | _ => none

/-- Every entry lists every string at most once. -/
def NoRepeats (s : Store) : Prop := ∀ id, (roleIds (rolesOf s id)).Nodup

/-- An effective grant names a role its principal does not hold, or, where the principal has
no entry, its text lists no string twice. -/
def GrantsNew (s : Store) : Event → Prop
  | .rbac (.assignPrincipalToRole r p) => roleExists s r → principalExists s p →
    match s.roleAssignments[p]? with
    | none => (roleIds (spliced r)).Nodup
    | some _ => ¬ Holds s p r
  | _ => True

/-- A string is listed where it is an element. -/
theorem mem_roleIds (roles : List Json) (r : Text) : r ∈ roleIds roles ↔ .str r ∈ roles := by
  rw [roleIds, List.mem_filterMap]
  constructor
  · rintro ⟨role, hrole, hr⟩
    cases role with
    | str x => exact Option.some.inj hr ▸ hrole
    | _ => cases hr
  · exact fun h => ⟨_, h, rfl⟩

/-- A pushed role comes last. -/
theorem roleIds_push (roles : List Json) (r : Text) :
    roleIds (roles ++ [.str r]) = roleIds roles ++ [r] := by
  rw [roleIds, List.filterMap_append]
  rfl

/-! ### Entries without repetitions -/

private theorem noRepeats_granted {s : Store} (h : NoRepeats s) (r p : Text) :
    (roleIds (granted s r p)).Nodup ↔
      match s.roleAssignments[p]? with
      | none => (roleIds (spliced r)).Nodup
      | some _ => ¬ Holds s p r := by
  cases hentry : s.roleAssignments[p]? with
  | none => rw [granted, hentry]
  | some assignment =>
    have hlisted : rolesOf s p = rolesIn assignment := by rw [rolesOf_eq, hentry]
    have hold := h p
    rw [granted, hentry, Holds, hlisted]
    rw [hlisted] at hold
    simp only [rolesIn] at hold ⊢
    split
    · next roles hroles =>
      rw [hroles] at hold
      rw [roleIds_push, ← List.concat_eq_append, List.nodup_concat, mem_roleIds]
      exact and_iff_left hold
    · exact iff_of_true List.nodup_nil List.not_mem_nil

private theorem noRepeats_assign {s : Store} (h : NoRepeats s) (r p : Text) :
    NoRepeats (assignPrincipalToRole s r p).2 ↔
      GrantsNew s (.rbac (.assignPrincipalToRole r p)) := by
  constructor
  · intro hafter hrole hprincipal
    have hgranted := hafter p
    rw [rolesOf_assign, if_pos ⟨rfl, hrole, hprincipal⟩] at hgranted
    exact (noRepeats_granted h r p).mp hgranted
  · intro hnew id
    rw [rolesOf_assign]
    split
    · next heffective => exact (noRepeats_granted h r p).mpr (hnew heffective.2.1 heffective.2.2)
    · exact h id

/-- An event keeps the entries free of repetitions exactly under its condition. -/
theorem noRepeats_step (s : Store) (e : Event) (h : NoRepeats s) :
    NoRepeats (step s e) ↔ GrantsNew s e := by
  have hframe : (step s e).roleAssignments = s.roleAssignments → NoRepeats (step s e) := by
    intro hassignments id
    rw [rolesOf_congr hassignments]
    exact h id
  cases e with
  | governance action => exact iff_of_true (hframe (govern_frame s action).2) trivial
  | rbac call =>
    cases call with
    | assignPrincipalToRole r p => exact noRepeats_assign h r p
    | removePrincipalFromRole r p =>
      apply iff_of_true _ trivial
      intro id
      rw [step, perform, rolesOf_revoke]
      split
      · exact List.nodup_nil
      · exact h id
    | _ => exact iff_of_true (hframe (roleCall_frame s rfl)) trivial

/-- The grant of a plain identifier meets its condition when the role is not held. -/
theorem grantsNew_plain {s : Store} {r p : Text} (h : Json.Plain r) (hnew : ¬ Holds s p r) :
    GrantsNew s (.rbac (.assignPrincipalToRole r p)) := by
  intro _ _
  split
  · rw [spliced_plain h]
    exact List.nodup_singleton r
  · exact hnew

/-! ### Grants made again -/

/-- Role and principal exist, and the principal's entry, or where there is none the text of
a first grant, has a list. -/
def WritesList (s : Store) (r p : Text) : Prop :=
  roleExists s r ∧ principalExists s p ∧
    ∃ assignment, s.roleAssignments[p]?.or (Json.parse (grantText r)) = some assignment ∧
      HasList assignment

-- A `null` entry is written back as it is, and a push onto any other throws.
private theorem assign_without_list {s : Store} {r p : Text} {assignment : Json}
    (hentry : s.roleAssignments[p]? = some assignment) (hlist : ¬ HasList assignment) :
    (assignPrincipalToRole s r p).2 = s := by
  rw [assignPrincipalToRole_store]
  cases hgrant : grant s r p with
  | none => rfl
  | some pushed =>
    have hsame : s.roleAssignments.insert p pushed = s.roleAssignments := by
      rw [grant] at hgrant
      split at hgrant
      · rw [hentry] at hgrant
        have hpush : pushRole assignment r = .ok pushed := by
          cases h : pushRole assignment r with
          | error failure => simp [h, Except.toOption] at hgrant
          | ok v => simpa [h, Except.toOption] using hgrant
        rcases pushRole_ok hpush with ⟨rfl, rfl⟩ | ⟨roles, hroles, -⟩
        · exact Table.set_same hentry
        · exact absurd ⟨roles, hroles⟩ hlist
      · cases hgrant
    simp only [hsame]

-- The entry is left alone, or it is a new one without a list, which is left alone then.
private theorem assign_twice {s : Store} {r p : Text} (h : ¬ WritesList s r p) :
    (assignPrincipalToRole (assignPrincipalToRole s r p).2 r p).2 =
      (assignPrincipalToRole s r p).2 := by
  have hkept : grant s r p = none → (assignPrincipalToRole s r p).2 = s := by
    intro hgrant
    rw [assignPrincipalToRole_store, hgrant]
  by_cases hguard : roleExists s r ∧ principalExists s p
  · have hlist : ∀ assignment, s.roleAssignments[p]?.or (Json.parse (grantText r)) =
        some assignment → ¬ HasList assignment :=
      fun assignment hassignment hlist => h ⟨hguard.1, hguard.2, assignment, hassignment, hlist⟩
    cases hentry : s.roleAssignments[p]? with
    | some assignment =>
      have hone : (assignPrincipalToRole s r p).2 = s :=
        assign_without_list hentry (hlist assignment (by rw [hentry, Option.some_or]))
      rw [hone, hone]
    | none =>
      have hfirst := grant_first hguard.1 hguard.2 hentry
      cases hparse : Json.parse (grantText r) with
      | none =>
        have hone := hkept (hfirst.trans hparse)
        rw [hone, hone]
      | some assignment =>
        have hnew : (assignPrincipalToRole s r p).2.roleAssignments[p]? = some assignment := by
          rw [entry_assign, if_pos rfl, hfirst, hparse, Option.some_or]
        exact assign_without_list hnew
          (hlist assignment (by rw [hentry, Option.none_or, hparse]))
  · have hone := hkept (if_neg hguard)
    rw [hone, hone]

private theorem rolesOf_assign_list {s : Store} {r p : Text} (hrole : roleExists s r)
    (hprincipal : principalExists s p) {assignment : Json}
    (hentry : s.roleAssignments[p]? = some assignment) (hlist : HasList assignment) :
    rolesOf (assignPrincipalToRole s r p).2 p = rolesOf s p ++ [.str r] := by
  obtain ⟨roles, hroles⟩ := hlist
  rw [rolesOf_assign, if_pos ⟨rfl, hrole, hprincipal⟩, granted, rolesOf_eq, hentry]
  simp only [rolesIn, hroles]

-- After a grant that writes a list there is a list to push onto.
private theorem entry_written {s : Store} {r p : Text} (h : WritesList s r p) :
    ∃ assignment, (assignPrincipalToRole s r p).2.roleAssignments[p]? = some assignment ∧
      HasList assignment := by
  obtain ⟨hrole, hprincipal, assignment, hassignment, hlist⟩ := h
  rw [entry_assign, if_pos rfl]
  cases hentry : s.roleAssignments[p]? with
  | none =>
    rw [hentry, Option.none_or] at hassignment
    exact ⟨assignment, by rw [grant_first hrole hprincipal hentry, hassignment, Option.some_or],
      hlist⟩
  | some old =>
    rw [hentry, Option.some_or, Option.some.injEq] at hassignment
    subst hassignment
    obtain ⟨roles, hroles⟩ := hlist
    obtain ⟨pushed, hpush, hpushed⟩ := pushRole_list r hroles
    refine ⟨pushed, ?_, _, hpushed⟩
    rw [grant_later hrole hprincipal hentry, hpush]
    rfl

/-- The store after a grant made `n` times in a row. -/
def regrant (s : Store) (r p : Text) (n : Nat) : Store :=
  Runs.run step s (List.replicate n (.rbac (.assignPrincipalToRole r p)))

/-- Making a grant again and again leaves the assignments as making it once does, exactly
where it writes no list. -/
theorem regrant_iff (s : Store) (r p : Text) :
    (∀ n, (regrant s r p (n + 1)).roleAssignments = (regrant s r p 1).roleAssignments) ↔
      ¬ WritesList s r p := by
  constructor
  · intro hsame hwrites
    have htwice : rolesOf (regrant s r p 2) p = rolesOf (regrant s r p 1) p :=
      rolesOf_congr (hsame 1) p
    obtain ⟨assignment, hentry, hlist⟩ := entry_written hwrites
    have hrole : roleExists (assignPrincipalToRole s r p).2 r = true := by
      rw [roleExists_congr (assign_roles s r p)]
      exact hwrites.1
    have hframe : (assignPrincipalToRole s r p).2.idMap = s.idMap :=
      (perform_frame s (.assignPrincipalToRole r p)).1
    have hprincipal : principalExists (assignPrincipalToRole s r p).2 p = true := by
      rw [principalExists_congr hframe]
      exact hwrites.2.1
    have hpushed := rolesOf_assign_list hrole hprincipal hentry hlist
    have hlonger : rolesOf (regrant s r p 2) p = rolesOf (regrant s r p 1) p ++ [.str r] :=
      hpushed
    rw [htwice] at hlonger
    simpa using congrArg List.length hlonger
  · intro hwrites n
    have hfixed : step (regrant s r p 1) (.rbac (.assignPrincipalToRole r p)) =
        regrant s r p 1 := assign_twice hwrites
    exact congrArg Store.roleAssignments (Runs.run_replicate step hfixed n)

/-- In every state of a run the entries repeat no role exactly when every event of the run
meets its condition; and wherever a run leads, the grants that can be repeated without
effect are those that write no list. -/
theorem noRepeats_throughout_iff (events : List Event) :
    (Runs.Throughout step NoRepeats Store.empty events ↔
      Runs.Guarded step GrantsNew Store.empty events) ∧
    ∀ r p, (∀ n, (regrant (Runs.run step Store.empty events) r p (n + 1)).roleAssignments =
        (regrant (Runs.run step Store.empty events) r p 1).roleAssignments) ↔
      ¬ WritesList (Runs.run step Store.empty events) r p := by
  refine ⟨Runs.throughout_iff_guarded noRepeats_step (fun id => ?_) events,
    fun r p => regrant_iff _ r p⟩
  have hnothing : rolesOf Store.empty id = [] := by simp [rolesOf_eq, Store.empty]
  rw [hnothing]
  exact List.nodup_nil

/-- The same role is granted to the same principal twice. -/
def grantedTwice : List Event :=
  [.governance (.setServicePrincipal (text "u") (text "prin1")),
    .rbac (.addRole ⟨text "id1", text "name1", some ⟨some [], some []⟩⟩),
    .rbac (.assignPrincipalToRole (text "id1") (text "u")),
    .rbac (.assignPrincipalToRole (text "id1") (text "u"))]

/-- The role is listed twice, and the second grant has changed the assignments. -/
theorem grantedTwice_repeats :
    ¬ Runs.Throughout step NoRepeats Store.empty grantedTwice ∧
      ¬ ∀ n, (regrant (Runs.run step Store.empty (grantedTwice.take 2)) (text "id1") (text "u")
          (n + 1)).roleAssignments =
        (regrant (Runs.run step Store.empty (grantedTwice.take 2)) (text "id1") (text "u")
          1).roleAssignments := by
  have hlisted : rolesOf (Runs.run step Store.empty grantedTwice) (text "u") =
      [.str (text "id1"), .str (text "id1")] := rfl
  have honce : rolesOf (Runs.run step Store.empty (grantedTwice.take 3)) (text "u") =
      [.str (text "id1")] := rfl
  constructor
  · intro h
    have hnodup := h grantedTwice List.prefix_rfl (text "u")
    rw [hlisted] at hnodup
    simp [roleIds] at hnodup
  · intro h
    have hsame : rolesOf (Runs.run step Store.empty grantedTwice) (text "u") =
        rolesOf (Runs.run step Store.empty (grantedTwice.take 3)) (text "u") :=
      rolesOf_congr (h 1) (text "u")
    rw [hlisted, honce] at hsame
    simp at hsame

end CcfIdentity
