import CcfIdentity.Base.Spans
import CcfIdentity.Logapp.Endpoints
import CcfIdentity.Network.Views

/-!
# Queries and headers

What a client has to write for the handlers to read what it means. `isInRbacRole` splits its
query by hand and decodes nothing, so it asks about the role and the principal of the query
exactly when neither holds a separator; `jwt` and the access check agree on the token of a
header.
-/

open Spans Utf16

namespace CcfIdentity.Logapp

/-- A part `name=value` of a query. -/
def queryPair (name : String) (v : Text) : Text := text name ++ 0x3D :: v

/-- The query for a role and a principal. -/
def roleQuery (roleId principalId : Text) : Text :=
  queryPair "roleId" roleId ++ 0x26 :: queryPair "principalId" principalId

/-- A part of a query holds no separator. -/
theorem free_queryPart {query v : Text} {name : String} (h : queryPart query name = some v) :
    Free [0x26, 0x3D] v := by
  obtain ⟨part, hpart, hv⟩ := Option.bind_eq_some_iff.mp h
  obtain ⟨piece, hpiece, hentry⟩ := List.mem_map.mp (Table.mem_of_record hpart)
  obtain ⟨-, rfl⟩ := Prod.mk.inj hentry
  intro c hc
  have hsplit := mem_of_mem_splitOn (List.mem_of_getElem? hv) hc
  have hamp := mem_of_mem_splitOn hpiece hsplit.1
  simp [hsplit.2, hamp.2]

theorem splitOn_queryPair {name : String} {v : Text} (hname : 0x3D ∉ text name)
    (hv : Free [0x26, 0x3D] v) : (queryPair name v).splitOn 0x3D = [text name, v] := by
  have hfree : 0x3D ∉ v := fun hmem => hv _ hmem (by simp)
  rw [queryPair, List.splitOn_append_cons_self_of_not_mem hname, List.splitOn_eq_singleton hfree]

theorem not_mem_queryPair {name : String} {v : Text} (hname : 0x26 ∉ text name)
    (hv : Free [0x26, 0x3D] v) : 0x26 ∉ queryPair name v := by
  have hfree : 0x26 ∉ v := fun hmem => hv _ hmem (by simp)
  simp [queryPair, hname, hfree]

/-- The parts of the query are read back. -/
theorem queryMap_roleQuery {roleId principalId : Text} (hrole : Free [0x26, 0x3D] roleId)
    (hprincipal : Free [0x26, 0x3D] principalId) :
    queryMap (roleQuery roleId principalId) = Table.record
      [(text "roleId", some roleId), (text "principalId", some principalId)] ∅ := by
  have hparts : (roleQuery roleId principalId).splitOn 0x26 =
      [queryPair "roleId" roleId, queryPair "principalId" principalId] := by
    rw [roleQuery,
      List.splitOn_append_cons_self_of_not_mem (not_mem_queryPair (by decide) hrole),
      List.splitOn_eq_singleton (not_mem_queryPair (by decide) hprincipal)]
  rw [queryMap, hparts, List.map_cons, List.map_cons, List.map_nil,
    splitOn_queryPair (by decide) hrole, splitOn_queryPair (by decide) hprincipal]
  rfl

theorem queryPart_roleQuery {roleId principalId : Text} (hrole : Free [0x26, 0x3D] roleId)
    (hprincipal : Free [0x26, 0x3D] principalId) :
    queryPart (roleQuery roleId principalId) "roleId" = some roleId ∧
      queryPart (roleQuery roleId principalId) "principalId" = some principalId := by
  have hnames : text "principalId" ≠ text "roleId" := by decide
  simp only [queryPart, queryMap_roleQuery hrole hprincipal, Table.record, List.foldl_cons,
    List.foldl_nil, Table.getElem?_set, if_neg hnames, if_true, Option.bind_some, and_self]

/-- A request whose query asks about a role and a principal. -/
def roleRequest (roleId principalId : Text) : Request Unit where
  headers := ∅
  path := text "/app/checkRole"
  certificate := none
  query := roleQuery roleId principalId
  json := .error .syntaxError

/-- A positive answer is about a role and a principal of the query. -/
theorem isInRbacRole_true {request : Request Unit} {t t' : Tables}
    (h : isInRbacRole request t = (.ok (.of true), t')) :
    ∃ roleId principalId, queryPart request.query "roleId" = some roleId ∧
      queryPart request.query "principalId" = some principalId ∧
        isInRole t.store roleId principalId = true := by
  obtain ⟨roleId, hrole, h⟩ := Program.check_bind_eq_ok.mp h
  obtain ⟨principalId, t₁, hprincipal, h⟩ := Program.bind_eq_ok.mp h
  obtain ⟨hanswer, -⟩ := Prod.mk.inj h
  have hin : isInRole t₁.store roleId principalId = true := by
    simpa [Response.of] using hanswer
  have hrole : queryPart request.query "roleId" = some roleId := by
    cases hquery : queryPart request.query "roleId" with
    | none => simp [hquery, roleKey] at hrole
    | some r => simpa [hquery, roleKey] using hrole
  refine ⟨roleId, principalId, hrole, ?_⟩
  rw [principalKey, Program.read_bind] at hprincipal
  cases hquery : queryPart request.query "principalId" with
  | some p =>
    rw [hquery] at hprincipal
    cases hprincipal
    exact ⟨rfl, hin⟩
  | none =>
    simp only [hquery, id_eq, Program.ite_apply] at hprincipal
    split at hprincipal
    · cases hprincipal
    · next hnone =>
      cases hprincipal
      exact absurd ((isInRole_iff _ _ _).mp hin).1 hnone

/-- A store in which nothing but the one role exists, and it is assigned to the one principal. -/
def oneAssignment (roleId principalId : Text) : Tables where
  store := { Store.empty with
    roles := (∅ : Table IRoleDefinition).insert roleId ⟨roleId, roleId, none⟩
    roleAssignments := (∅ : Table Json).insert principalId .null }
  log := ∅

theorem isInRole_oneAssignment {roleId principalId r p : Text} :
    isInRole (oneAssignment roleId principalId).store r p = true ↔
      roleId = r ∧ principalId = p := by
  rw [isInRole_iff, roleExists_eq, oneAssignment, Table.getElem?_set, Table.getElem?_set]
  apply and_congr
  · split
    · next heq => simp [heq]
    · next hne => simp [hne]
  · split
    · next heq => simp [heq]
    · next hne => simp [hne]

/-- `isInRbacRole` answers what its query asks, whatever the tables hold, exactly when neither
identifier in the query holds a separator. -/
theorem isInRbacRole_iff (roleId principalId : Text) :
    (∀ t : Tables, isInRbacRole (roleRequest roleId principalId) t =
      (.ok (.of (isInRole t.store roleId principalId)), t)) ↔
      Free [0x26, 0x3D] roleId ∧ Free [0x26, 0x3D] principalId := by
  constructor
  · intro h
    have hone := h (oneAssignment roleId principalId)
    rw [isInRole_oneAssignment.mpr ⟨rfl, rfl⟩] at hone
    obtain ⟨r, p, hrole, hprincipal, hholds⟩ := isInRbacRole_true hone
    obtain ⟨rfl, rfl⟩ := isInRole_oneAssignment.mp hholds
    exact ⟨free_queryPart hrole, free_queryPart hprincipal⟩
  · rintro ⟨hrole, hprincipal⟩ t
    obtain ⟨hroleId, hprincipalId⟩ := queryPart_roleQuery hrole hprincipal
    simp only [isInRbacRole, roleRequest, hroleId, hprincipalId]
    rfl

/-! ### The token of a header -/

/-- The second part of a header is the first piece behind its scheme. -/
theorem split_second {scheme : Text} (hscheme : 0x20 ∉ scheme) (rest : Text) :
    (split (scheme ++ 0x20 :: rest) 0x20 2)[1]? = (rest.splitOn 0x20).head? := by
  rw [split, List.splitOn_append_cons_self_of_not_mem hscheme]
  cases rest.splitOn 0x20 <;> rfl

/-- The two parts of a header that names a scheme and a token. -/
theorem split_eq_pair {s scheme token : Text} :
    split s 0x20 2 = [scheme, token] ↔ 0x20 ∉ scheme ∧ 0x20 ∉ token ∧
      ∃ rest, s = scheme ++ 0x20 :: (token ++ rest) ∧ StopsAt [0x20] rest := by
  rw [split]
  constructor
  · intro h
    rcases splitOn_cases 0x20 s with ⟨-, hsplit⟩ | ⟨first, after, rfl, hfirst, hsplit⟩
    · simp [hsplit] at h
    · rw [hsplit, List.take_succ_cons, List.cons.injEq] at h
      obtain ⟨rfl, htoken⟩ := h
      have hhead := congrArg List.head? htoken
      rw [List.head?_take, if_neg one_ne_zero, List.head?_cons] at hhead
      obtain ⟨hfree, rest, rfl, hrest⟩ := head_splitOn.mp hhead
      exact ⟨hfirst, hfree, rest, rfl, hrest⟩
  · rintro ⟨hscheme, htoken, rest, rfl, hrest⟩
    have hhead := head_splitOn.mpr ⟨htoken, rest, rfl, hrest⟩
    obtain ⟨pieces, hpieces⟩ := List.head?_eq_some_iff.mp hhead
    rw [List.splitOn_append_cons_self_of_not_mem hscheme, hpieces]
    rfl

theorem unauthorized_ne (msg : String) (token : Text) :
    unauthorized msg ≠ .of (.inl token) := by
  simp [unauthorized, Response.of]

/-- The endpoint answers with the token of a header exactly when the header is the scheme
`Bearer`, a blank and the token, up to its end or to another blank. -/
theorem jwt_iff (request : CcfIdentity.Request) (token : Text) :
    jwt request = .of (.inl token) ↔ 0x20 ∉ token ∧
      ∃ rest, request.headers[text "authorization"]? =
        some (text "Bearer" ++ 0x20 :: (token ++ rest)) ∧ StopsAt [0x20] rest := by
  rw [jwt]
  split
  · next hheader => simp [hheader, unauthorized_ne]
  · next hheader => simp [hheader, unauthorized_ne]
  · next authHeader _ hheader =>
    have hpair : split authHeader 0x20 2 = [text "Bearer", token] ↔ 0x20 ∉ token ∧
        ∃ rest, request.headers[text "authorization"]? =
          some (text "Bearer" ++ 0x20 :: (token ++ rest)) ∧ StopsAt [0x20] rest := by
      rw [split_eq_pair, hheader, and_iff_right (by decide)]
      simp only [Option.some.injEq]
    rw [← hpair]
    split
    · next scheme other hsplit =>
      rw [hsplit]
      split
      · next hscheme => simp [hscheme, Response.of]
      · next hscheme => simp [hscheme, unauthorized_ne]
    · next hnot => exact iff_of_false (unauthorized_ne _ _) (hnot _ _)

/-- A header has a second part where it goes on behind a scheme. -/
theorem split_second_eq_some {s token : Text} :
    (split s 0x20 2)[1]? = some token ↔ 0x20 ∉ token ∧ ∃ scheme rest, 0x20 ∉ scheme ∧
      s = scheme ++ 0x20 :: (token ++ rest) ∧ StopsAt [0x20] rest := by
  constructor
  · intro h
    rcases splitOn_cases 0x20 s with ⟨-, hsplit⟩ | ⟨scheme, after, rfl, hscheme, -⟩
    · simp [split, hsplit] at h
    · rw [split_second hscheme] at h
      obtain ⟨htoken, rest, rfl, hrest⟩ := head_splitOn.mp h
      exact ⟨htoken, scheme, rest, hscheme, rfl, hrest⟩
  · rintro ⟨htoken, scheme, rest, hscheme, rfl, hrest⟩
    rw [split_second hscheme]
    exact head_splitOn.mpr ⟨htoken, rest, rfl, hrest⟩

/-- The token the access check decodes is the second part of the header, whatever the first
part is. -/
theorem decodes_iff (request : CcfIdentity.Request) (token : Text) :
    (∀ jwt_decode, decodeToken jwt_decode request = jwt_decode (some token)) ↔
      0x20 ∉ token ∧ ∃ scheme rest, 0x20 ∉ scheme ∧
        request.headers[text "authorization"]? =
          some (scheme ++ 0x20 :: (token ++ rest)) ∧ StopsAt [0x20] rest := by
  have hsecond : (∃ authHeader, request.headers[text "authorization"]? = some authHeader ∧
      (split authHeader 0x20 2)[1]? = some token) ↔ 0x20 ∉ token ∧ ∃ scheme rest,
        0x20 ∉ scheme ∧ request.headers[text "authorization"]? =
          some (scheme ++ 0x20 :: (token ++ rest)) ∧ StopsAt [0x20] rest := by
    simp only [split_second_eq_some]
    constructor
    · rintro ⟨_, hheader, htoken, scheme, rest, hscheme, rfl, hrest⟩
      exact ⟨htoken, scheme, rest, hscheme, hheader, hrest⟩
    · rintro ⟨htoken, scheme, rest, hscheme, hheader, hrest⟩
      exact ⟨_, hheader, htoken, scheme, rest, hscheme, rfl, hrest⟩
  rw [← hsecond]
  constructor
  · intro h
    have htold := h fun part => if part = some token then .ok ⟨none, none⟩ else .error .invalidToken
    rw [decodeToken] at htold
    cases hheader : request.headers[text "authorization"]? with
    | none => simp [hheader] at htold
    | some authHeader =>
      refine ⟨authHeader, rfl, ?_⟩
      by_contra hpart
      simp [hheader, hpart] at htold
  · rintro ⟨authHeader, hheader, hpart⟩ jwt_decode
    rw [decodeToken, hheader]
    exact congrArg jwt_decode hpart

/-- The endpoint shows exactly the token that the access check decodes, and that only under
the scheme `Bearer`. The access check decodes it under any scheme. -/
theorem jwt_agrees (request : CcfIdentity.Request) (token : Text) :
    (jwt request = .of (.inl token) ↔
      (∃ rest, request.headers[text "authorization"]? = some (text "Bearer" ++ 0x20 :: rest)) ∧
        ∀ jwt_decode, decodeToken jwt_decode request = jwt_decode (some token)) ∧
    ((∀ jwt_decode, decodeToken jwt_decode request = jwt_decode (some token)) ↔
      0x20 ∉ token ∧ ∃ scheme rest, 0x20 ∉ scheme ∧
        request.headers[text "authorization"]? =
          some (scheme ++ 0x20 :: (token ++ rest)) ∧ StopsAt [0x20] rest) := by
  refine ⟨?_, decodes_iff request token⟩
  have hbearer : 0x20 ∉ text "Bearer" := by decide
  rw [jwt_iff, decodes_iff]
  constructor
  · rintro ⟨hfree, rest, hheader, hrest⟩
    exact ⟨⟨_, hheader⟩, hfree, _, rest, hbearer, hheader, hrest⟩
  · rintro ⟨⟨after, hheader⟩, hfree, scheme, rest, hscheme, hfound, hrest⟩
    -- two headers that are equal have the same piece before their first blank
    have hsame : text "Bearer" ++ 0x20 :: after = scheme ++ 0x20 :: (token ++ rest) :=
      Option.some.inj (hheader.symm.trans hfound)
    obtain rfl : text "Bearer" = scheme := by
      have hpieces := congrArg (fun s : Text => (s.splitOn 0x20).head?) hsame
      simpa only [List.splitOn_append_cons_self_of_not_mem hbearer,
        List.splitOn_append_cons_self_of_not_mem hscheme, List.head?_cons,
        Option.some.injEq] using hpieces
    exact ⟨hfree, rest, hfound, hrest⟩

end CcfIdentity.Logapp
