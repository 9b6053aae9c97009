import CcfIdentity.Auth.CheckAccess

/-!
# What the scans compute

Every scan runs over its whole list. If each role in it has permissions the flag ends up
set when it was set or some role lists the resource; otherwise the scan throws, wherever
in the list the offending role stands.
-/

open Utf16

namespace CcfIdentity

/-- The role's permissions can be read. -/
def Readable (s : Store) (role : Json) : Prop := ∃ perm, rolePermissions s role = .ok perm

/-- The role can be read and one of its two lists has the resource. -/
def lists (s : Store) (list : Permission → Option (List Text)) (resource : Text)
    (role : Json) : Bool :=
  match rolePermissions s role with
  | .ok perm => ((list perm).getD []).any fun el => el == resource
  | .error _ => false

/-- A role is readable exactly when it names a stored role with permissions. -/
theorem readable_iff (s : Store) (role : Json) :
    Readable s role ↔
      ∃ r, role = .str r ∧ ∃ perm, s.roles[r]?.bind (·.permissions) = some perm := by
  cases role with
  | str r =>
    simp only [Readable, rolePermissions, getRole_eq]
    cases hr : s.roles[r]? with
    | none => simp [hr]
    | some irole => cases hp : irole.permissions <;> simp [hr, hp]
  | _ => simp [Readable, rolePermissions]

/-- Reading fails in one way only. -/
theorem rolePermissions_error {s : Store} {role : Json} (h : ¬ Readable s role) :
    rolePermissions s role = .error .typeError := by
  cases role with
  | str r =>
    simp only [Readable, rolePermissions, getRole_eq] at h ⊢
    cases hr : s.roles[r]? with
    | none => rfl
    | some irole => cases hp : irole.permissions <;> simp [hr, hp] at h ⊢
  | _ => rfl

/-- The permissions read for a role identifier. -/
theorem rolePermissions_str {s : Store} {r : Text} {perm : Permission}
    (h : s.roles[r]?.bind (·.permissions) = some perm) :
    rolePermissions s (.str r) = .ok perm := by
  obtain ⟨irole, hr, hp⟩ := Option.bind_eq_some_iff.mp h
  simp [rolePermissions, getRole_eq, hr, hp]

/-- The callback sets the flag or leaves it, and always answers `undefined`. -/
theorem scanRole_run (s : Store) (list : Permission → Option (List Text)) (resource : Text)
    (role : Json) (flag : Bool) :
    (scanRole s list resource role).run flag = (rolePermissions s role).map fun perm =>
      (false, flag || ((list perm).getD []).any fun el => el == resource) := by
  rw [scanRole, StateT.run_bind]
  cases rolePermissions s role with
  | error failure => rfl
  | ok perm =>
    simp only [StateT.run_monadLift, monadLift_self, Except.map, pure, Except.pure, bind,
      Except.bind]
    cases list perm with
    | none =>
      rw [Option.getD_none, List.any_nil, Bool.or_false]
      rfl
    | some elements =>
      cases hany : elements.any (fun el => el == resource)
      · simp only [Option.getD_some, hany, Bool.false_eq_true, ↓reduceIte, Bool.or_false]
        rfl
      · simp only [Option.getD_some, hany, ↓reduceIte, Bool.or_true]
        rfl

/-- No callback stops a scan, so the next role is always looked at. -/
theorem scan_cons (s : Store) (list : Permission → Option (List Text)) (resource : Text)
    (role : Json) (roles : List Json) (flag : Bool) :
    scan s list resource (role :: roles) flag = (rolePermissions s role).bind fun perm =>
      scan s list resource roles (flag || ((list perm).getD []).any fun el => el == resource) := by
  simp only [scan, List.anyM, StateT.run_bind, scanRole_run]
  cases rolePermissions s role <;> rfl

/-- A scan of readable roles. -/
theorem scan_ok {s : Store} {list : Permission → Option (List Text)} {resource : Text}
    {roles : List Json} (h : ∀ role ∈ roles, Readable s role) (flag : Bool) :
    scan s list resource roles flag = .ok (flag || roles.any (lists s list resource)) := by
  induction roles generalizing flag with
  | nil =>
    rw [List.any_nil, Bool.or_false]
    rfl
  | cons role roles ih =>
    obtain ⟨perm, hperm⟩ := h role List.mem_cons_self
    have hrest := ih fun role hrole => h role (List.mem_cons_of_mem _ hrole)
    rw [scan_cons, hperm, Except.bind, hrest, List.any_cons, lists, hperm, Bool.or_assoc]

/-- A scan over a role that cannot be read. -/
theorem scan_error {s : Store} {list : Permission → Option (List Text)} {resource : Text}
    {roles : List Json} (h : ∃ role ∈ roles, ¬ Readable s role) (flag : Bool) :
    scan s list resource roles flag = .error .typeError := by
  induction roles generalizing flag with
  | nil =>
    obtain ⟨role, hrole, -⟩ := h
    cases hrole
  | cons role roles ih =>
    rw [scan_cons]
    by_cases hrole : Readable s role
    · obtain ⟨perm, hperm⟩ := hrole
      have hrest : ∃ role ∈ roles, ¬ Readable s role := by
        obtain ⟨bad, hbad, hnot⟩ := h
        rcases List.mem_cons.mp hbad with rfl | hbad
        · exact absurd ⟨perm, hperm⟩ hnot
        · exact ⟨bad, hbad, hnot⟩
      rw [hperm, Except.bind, ih hrest]
    · rw [rolePermissions_error hrole, Except.bind]

end CcfIdentity
