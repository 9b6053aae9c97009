import CcfIdentity.Rbac.Assignments

/-!
# What one grant and one revocation change

A first grant splices the role identifier into a JSON text. A plain identifier comes back
out as the one role of the new entry; any other makes the parser fail or list something
else. A later grant pushes the identifier onto the list and has no such restriction, and a
revocation drops the whole entry.
-/

open Utf16

namespace CcfIdentity

/-! ### The text of a first grant -/

private theorem grantText_eq (r : Text) :
    grantText r = text "\x7b\"roles\": [ \"" ++ (r ++ ([0x22] ++ text " ]\x7d")) := by
  rw [grantText, List.append_assoc]
  rfl

private theorem lexFrom_opening : Json.lexFrom .start (text "\x7b\"roles\": [ \"") =
    some (.string [], [.beginObject, .str rolesProperty, .nameSeparator, .beginArray]) := rfl

/-- The tokens of the text around a plain identifier. -/
theorem lex_grantText {r : Text} (h : Json.Plain r) :
    Json.lex (grantText r) = some [.beginObject, .str rolesProperty, .nameSeparator, .beginArray,
      .str r, .endArray, .endObject] := by
  have hclosing : Json.lexFrom (.string r) ([0x22] ++ text " ]\x7d") =
      some (.start, [.str r, .endArray, .endObject]) := rfl
  have hrest : Json.lexFrom (.string []) (r ++ ([0x22] ++ text " ]\x7d")) =
      some (.start, [.str r, .endArray, .endObject]) := by
    rw [Json.lexFrom_append, Json.lexFrom_plain [] h, Option.bind_some, List.nil_append, hclosing]
    rfl
  rw [Json.lex, grantText_eq, Json.lexFrom_append, lexFrom_opening, Option.bind_some, hrest]
  rfl

/-- A first grant of a plain identifier stores a list of that identifier alone. -/
theorem parse_grantText {r : Text} (h : Json.Plain r) :
    Json.parse (grantText r) = some (.obj [(rolesProperty, .arr [.str r])]) := by
  rw [Json.parse, lex_grantText h]
  rfl

/-- A plain identifier lists itself only. -/
theorem spliced_plain {r : Text} (h : Json.Plain r) : spliced r = [.str r] := by
  unfold spliced
  rw [parse_grantText h]
  rfl

private theorem plain_of_str_mem_lex {r : Text} {tokens : List Json.Token}
    (h : Json.lex (grantText r) = some tokens) (hr : .str r ∈ tokens) : Json.Plain r := by
  obtain ⟨σ, lexed, last, hrun, rfl, hlast⟩ := Json.lex_some h
  have hlexed : .str r ∈ lexed := (List.mem_append.mp hr).resolve_right (hlast r)
  rw [grantText_eq] at hrun
  obtain ⟨σ₁, opening, rest, hopening, hrest, rfl⟩ := Json.lexFrom_append_some hrun
  rw [lexFrom_opening] at hopening
  cases hopening
  rw [← List.append_assoc] at hrest
  obtain ⟨σ₂, literal, closing, hliteral, hclosing, rfl⟩ := Json.lexFrom_append_some hrest
  rcases List.mem_append.mp hlexed with hmem | hmem
  · -- the identifier is the member's own name, which is plain
    have hname : r = rolesProperty := by simpa using hmem
    rw [hname]
    decide
  · rcases List.mem_append.mp hmem with hmem | hmem
    · exact Json.plain_of_lexFrom hliteral hmem
    · -- what follows the literal has no quotation mark and completes no string
      have hnone : (0x22 : UInt16) ∉ text " ]\x7d" := by decide
      exact absurd (Json.quote_mem_of_lexFrom hclosing hmem) hnone

/-- An identifier that its own first grant lists is plain. -/
theorem plain_of_mem_spliced {r : Text} (h : .str r ∈ spliced r) : Json.Plain r := by
  unfold spliced at h
  split at h
  · next assignment hparse =>
    unfold rolesIn at h
    split at h
    · next roles hroles =>
      have hmentions : Json.Mentions r assignment :=
        Json.mentions_of_property hroles (.arr h .str)
      obtain ⟨tokens, htokens, -⟩ := Option.bind_eq_some_iff.mp hparse
      exact plain_of_str_mem_lex htokens (Json.mentions_parse htokens hparse hmentions)
    · cases h
  · cases h

/-! ### One grant -/

/-- The call reports success and adds exactly the named role to the principal's. -/
structure GrantsExactly (s : Store) (r p : Text) : Prop where
  reports : (assignPrincipalToRole s r p).1 = .ok { message := "Role assigned successfully" }
  holds : ∀ x, Holds (assignPrincipalToRole s r p).2 p x ↔ Holds s p x ∨ x = r
  others : ∀ id, id ≠ p →
    (assignPrincipalToRole s r p).2.roleAssignments[id]? = s.roleAssignments[id]?
  roles : (assignPrincipalToRole s r p).2.roles = s.roles

/-- Between an existing role and principal, the call succeeds when it has an entry to write. -/
theorem assign_reports {s : Store} {r p : Text} (hrole : roleExists s r)
    (hprincipal : principalExists s p) {assignment : Json}
    (hgrant : grant s r p = some assignment) :
    (assignPrincipalToRole s r p).1 = .ok { message := "Role assigned successfully" } := by
  simp only [assignPrincipalToRole, hrole, hprincipal, Bool.and_self, ↓reduceIte,
    Std.ExtTreeMap.contains_eq_isSome_getElem?]
  cases hentry : s.roleAssignments[p]? with
  | none =>
    rw [grant_first hrole hprincipal hentry] at hgrant
    simp [hgrant]
  | some old =>
    rw [grant_later hrole hprincipal hentry] at hgrant
    cases hpush : pushRole old r with
    | error failure => simp [hpush, Except.toOption] at hgrant
    | ok pushed => simp [hpush]

section Granting

variable {s : Store} {r p : Text}

private theorem rolesOf_granted (hrole : roleExists s r) (hprincipal : principalExists s p) :
    rolesOf (assignPrincipalToRole s r p).2 p = granted s r p := by
  rw [rolesOf_assign, if_pos ⟨rfl, hrole, hprincipal⟩]

-- The frame holds of every grant; what is left to show is about the principal's own list.
private theorem grantsExactly_of_granted (hrole : roleExists s r)
    (hprincipal : principalExists s p) {assignment : Json} (hgrant : grant s r p = some assignment)
    (hlisted : ∀ x, .str x ∈ granted s r p ↔ Holds s p x ∨ x = r) : GrantsExactly s r p where
  reports := assign_reports hrole hprincipal hgrant
  holds x := by
    rw [Holds, rolesOf_granted hrole hprincipal]
    exact hlisted x
  others id hid := by rw [entry_assign, if_neg hid]
  roles := by rw [assignPrincipalToRole_store]

private theorem grantsExactly_later (hrole : roleExists s r) (hprincipal : principalExists s p)
    {roles : List Json} (hlist : getRolesForPrincipal s p = some (.arr roles)) :
    GrantsExactly s r p := by
  rw [getRolesForPrincipal_eq] at hlist
  obtain ⟨assignment, hentry, hlist⟩ := Option.bind_eq_some_iff.mp hlist
  obtain ⟨pushed, hpush, -⟩ := pushRole_list r hlist
  have hgrant : grant s r p = some pushed := by
    rw [grant_later hrole hprincipal hentry, hpush]
    rfl
  apply grantsExactly_of_granted hrole hprincipal hgrant
  intro x
  rw [mem_granted hentry]
  simp [hlist]

private theorem grantsExactly_first (hrole : roleExists s r) (hprincipal : principalExists s p)
    (hentry : s.roleAssignments[p]? = none) (hplain : Json.Plain r) : GrantsExactly s r p := by
  have hgrant : grant s r p = some (.obj [(rolesProperty, .arr [.str r])]) := by
    rw [grant_first hrole hprincipal hentry, parse_grantText hplain]
  have hbefore : rolesOf s p = [] := by rw [rolesOf_eq, hentry]
  apply grantsExactly_of_granted hrole hprincipal hgrant
  intro x
  rw [granted, hentry, spliced_plain hplain, Holds, hbefore]
  simp

/-- A grant does what it should exactly when the principal already has a list, or has no
entry and the role identifier is plain. -/
theorem grantsExactly_iff (hrole : roleExists s r) (hprincipal : principalExists s p) :
    GrantsExactly s r p ↔
      (∃ roles, getRolesForPrincipal s p = some (.arr roles)) ∨
        s.roleAssignments[p]? = none ∧ Json.Plain r := by
  constructor
  · intro h
    have hgranted : .str r ∈ granted s r p := by
      rw [← rolesOf_granted hrole hprincipal]
      exact (h.holds r).mpr (.inr rfl)
    rw [getRolesForPrincipal_eq]
    unfold granted at hgranted
    split at hgranted
    · next hentry => exact .inr ⟨hentry, plain_of_mem_spliced hgranted⟩
    · next assignment hentry =>
      split at hgranted
      · next roles hlist => exact .inl ⟨roles, by rw [hentry]; exact hlist⟩
      · cases hgranted
  · rintro (⟨roles, hlist⟩ | ⟨hentry, hplain⟩)
    · exact grantsExactly_later hrole hprincipal hlist
    · exact grantsExactly_first hrole hprincipal hentry hplain

end Granting

/-- A plain role, a role whose identifier reads as two once it is spliced, and a principal
without an entry. -/
def quotedRole : Store :=
  { roles := ((∅ : Table IRoleDefinition).insert (text "reader")
        ⟨text "reader", text "Reader", some ⟨some [], some []⟩⟩).insert
      (text "a\", \"b") ⟨text "a\", \"b", text "quoted", some ⟨some [], some []⟩⟩
    roleAssignments := ∅
    idMap := (∅ : Table Text).insert (text "u") (text "prin1")
    groupMap := ∅ }

/-- The grant of the quoted role gives two other roles instead. -/
theorem quotedRole_splits :
    roleExists quotedRole (text "a\", \"b") ∧ principalExists quotedRole (text "u") ∧
      rolesOf (assignPrincipalToRole quotedRole (text "a\", \"b") (text "u")).2 (text "u") =
        [.str (text "a"), .str (text "b")] ∧
      ¬ GrantsExactly quotedRole (text "a\", \"b") (text "u") := by
  have hlisted : rolesOf (assignPrincipalToRole quotedRole (text "a\", \"b") (text "u")).2
      (text "u") = [.str (text "a"), .str (text "b")] := rfl
  refine ⟨rfl, rfl, hlisted, fun h => ?_⟩
  have hgranted := (h.holds (text "a\", \"b")).mpr (.inr rfl)
  rw [Holds, hlisted] at hgranted
  have hsplit : text "a\", \"b" ≠ text "a" ∧ text "a\", \"b" ≠ text "b" := by decide
  simp [hsplit] at hgranted

/-- The grant of the plain role gives that role. -/
theorem quotedRole_plain_granted : GrantsExactly quotedRole (text "reader") (text "u") :=
  (grantsExactly_iff rfl rfl).mpr (.inr ⟨rfl, by decide⟩)

/-! ### One revocation -/

/-- The call takes exactly the named role from the elements listed for the principal. -/
structure RevokesExactly (s : Store) (r p : Text) : Prop where
  holds : ∀ v, v ∈ rolesOf (removePrincipalFromRole s r p).2 p ↔ v ∈ rolesOf s p ∧ v ≠ .str r
  others : ∀ id, id ≠ p →
    (removePrincipalFromRole s r p).2.roleAssignments[id]? = s.roleAssignments[id]?
  absent : ¬ Holds s p r →
    ∀ v, v ∈ rolesOf (removePrincipalFromRole s r p).2 p ↔ v ∈ rolesOf s p

/-- A revocation does what it should exactly when nothing but the named role is listed. -/
theorem revokesExactly_iff {s : Store} {r p : Text} (hrole : roleExists s r)
    (hprincipal : principalExists s p) :
    RevokesExactly s r p ↔ ∀ v ∈ rolesOf s p, v = .str r := by
  have hafter : ∀ v, v ∉ rolesOf (removePrincipalFromRole s r p).2 p := by
    intro v hv
    rw [rolesOf_revoke, if_pos ⟨rfl, hrole, hprincipal⟩] at hv
    cases hv
  constructor
  · intro h v hv
    exact by_contra fun hne => hafter v ((h.holds v).mpr ⟨hv, hne⟩)
  · intro honly
    refine ⟨fun v => ?_, fun id hid => ?_, fun habsent v => ?_⟩
    · exact iff_of_false (hafter v) fun hv => hv.2 (honly v hv.1)
    · rw [entry_revoke, if_neg fun heffective => hid heffective.1]
    · refine iff_of_false (hafter v) fun hv => habsent ?_
      rw [Holds, ← honly v hv]
      exact hv

/-- A principal with two roles and one with a single role. -/
def twoRoles : Store :=
  { roles := ((∅ : Table IRoleDefinition).insert (text "id1")
        ⟨text "id1", text "name1", some ⟨some [], some []⟩⟩).insert
      (text "id2") ⟨text "id2", text "name2", some ⟨some [], some []⟩⟩
    roleAssignments := ((∅ : Table Json).insert (text "u")
        (.obj [(rolesProperty, .arr [.str (text "id1"), .str (text "id2")])])).insert
      (text "v") (.obj [(rolesProperty, .arr [.str (text "id2")])])
    idMap := ((∅ : Table Text).insert (text "u") (text "prin1")).insert (text "v") (text "prin2")
    groupMap := ∅ }

/-- Revoking one of the two roles takes both. -/
theorem twoRoles_both_revoked :
    roleExists twoRoles (text "id1") ∧ principalExists twoRoles (text "u") ∧
      rolesOf twoRoles (text "u") = [.str (text "id1"), .str (text "id2")] ∧
      ¬ RevokesExactly twoRoles (text "id1") (text "u") := by
  have hlisted : rolesOf twoRoles (text "u") = [.str (text "id1"), .str (text "id2")] := rfl
  have hafter : rolesOf (removePrincipalFromRole twoRoles (text "id1") (text "u")).2 (text "u") =
      [] := rfl
  refine ⟨rfl, rfl, hlisted, fun h => ?_⟩
  have hother : text "id2" ≠ text "id1" := by decide
  have hkept := (h.holds (.str (text "id2"))).mpr
    ⟨by simp [hlisted], fun heq => hother (Json.str.inj heq)⟩
  rw [hafter] at hkept
  cases hkept

/-- Revoking a principal's only role takes that role. -/
theorem twoRoles_single_revoked : RevokesExactly twoRoles (text "id2") (text "v") := by
  have hlisted : rolesOf twoRoles (text "v") = [.str (text "id2")] := rfl
  apply (revokesExactly_iff rfl rfl).mpr
  intro v hv
  rw [hlisted] at hv
  exact List.mem_singleton.mp hv

end CcfIdentity
