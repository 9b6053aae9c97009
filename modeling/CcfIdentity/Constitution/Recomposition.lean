import CcfIdentity.Constitution.Refreshes

/-!
# Recomposition of a URL

The parts of a URL are put together again by what separates them. The expression finds in a
text the well-formed parts that recompose to it, up to what follows a line terminator in the
fragment. With this come two round trips and the exact shape of the issuers that pass as
ones to refresh.
-/

open Spans Utf16

namespace CcfIdentity.Constitution

/-- The text of a scheme and its colon. -/
def schemed (scheme : Option Text) : Text := scheme.elim [] (· ++ [0x3A])

/-- The text with these parts. -/
def Url.recompose (u : Url) : Text :=
  schemed u.scheme ++ (opened [0x2F, 0x2F] u.authority ++
    (u.path ++ (opened [0x3F] u.query ++ opened [0x23] u.fragment)))

/-- The text begins with no scheme. -/
def Schemeless (s : Text) : Prop :=
  ∀ scheme, scheme ++ [0x3A] <+: s → Free [0x3A, 0x2F, 0x3F, 0x23] scheme → scheme = []

/-- Each part keeps to its class, and none can be taken for another. -/
structure Url.WellFormed (u : Url) : Prop where
  scheme : ∀ s ∈ u.scheme, s ≠ [] ∧ Free [0x3A, 0x2F, 0x3F, 0x23] s
  authority : ∀ a ∈ u.authority, Free [0x2F, 0x3F, 0x23] a ∧ StopsAt [0x2F] u.path
  path : Free [0x3F, 0x23] u.path
  query : ∀ q ∈ u.query, Free [0x23] q
  fragment : ∀ f ∈ u.fragment, Free lineTerminators f
  unopened : u.authority = none → ¬ [0x2F, 0x2F] <+: u.path
  schemeless : u.scheme = none → u.authority = none → Schemeless u.path

/-- A scheme and its colon are found at the start of a text. -/
theorem upTo_scheme {scheme : Text} (hfree : Free [0x3A, 0x2F, 0x3F, 0x23] scheme)
    (rest : Text) :
    upTo [0x3A, 0x2F, 0x3F, 0x23] (scheme ++ [0x3A] ++ rest) = (scheme, 0x3A :: rest) := by
  rw [List.append_assoc]
  exact upTo_of hfree (by simp)

/-- The scheme and the rest are the only ones that fit. -/
theorem takeScheme_eq_iff {s rest : Text} {scheme : Option Text} :
    takeScheme s = (scheme, rest) ↔ s = schemed scheme ++ rest ∧
      (∀ a ∈ scheme, a ≠ [] ∧ Free [0x3A, 0x2F, 0x3F, 0x23] a) ∧
      (scheme = none → Schemeless rest) := by
  rw [takeScheme]
  split
  · next c first after hcut =>
    obtain ⟨rfl, hfree, -⟩ := upTo_eq_iff.mp hcut
    constructor
    · intro h
      cases h
      exact ⟨by simp [schemed], by simpa using hfree, nofun⟩
    · rintro ⟨hs, hscheme, hnone⟩
      cases scheme with
      | none =>
        have hstart : (c :: first) ++ [0x3A] <+: rest := ⟨after, by simpa [schemed] using hs⟩
        exact absurd (hnone rfl _ hstart hfree) (by simp)
      | some a =>
        rw [hs, schemed, Option.elim_some, upTo_scheme (hscheme a rfl).2] at hcut
        cases hcut
        rfl
  · next hnot =>
    constructor
    · intro h
      cases h
      refine ⟨rfl, by simp, ?_⟩
      rintro - a ⟨after, rfl⟩ hfree
      cases a with
      | nil => rfl
      | cons c first => exact absurd (upTo_scheme hfree after) (hnot c first after)
    · rintro ⟨hs, hscheme, -⟩
      cases scheme with
      | none => exact Prod.ext rfl hs
      | some a =>
        obtain ⟨hne, hfree⟩ := hscheme a rfl
        cases a with
        | nil => exact absurd rfl hne
        | cons c first => exact absurd (hs ▸ upTo_scheme hfree rest) (hnot c first rest)

/-- The parts that are found keep to their classes, and the text goes on behind them only
where a fragment has been left. -/
theorem wellFormed_parseUrl (s : Text) :
    (parseUrl s).WellFormed ∧ ∃ rest, s = (parseUrl s).recompose ++ rest ∧
      StopsAt lineTerminators rest ∧ ((parseUrl s).fragment = none → rest = []) := by
  rcases h₁ : takeScheme s with ⟨scheme, afterScheme⟩
  rcases h₂ : takeAuthority afterScheme with ⟨authority, afterAuthority⟩
  rcases h₃ : upTo [0x3F, 0x23] afterAuthority with ⟨path, afterPath⟩
  rcases h₄ : takeQuery afterPath with ⟨query, afterQuery⟩
  rcases h₅ : takeFragment afterQuery with ⟨fragment, rest⟩
  have hparts : parseUrl s = ⟨scheme, authority, path, query, fragment⟩ := by
    simp only [parseUrl, h₁, h₂, h₃, h₄, h₅]
  rw [hparts]
  obtain ⟨hs, hscheme, hschemeless⟩ := takeScheme_eq_iff.mp h₁
  obtain ⟨rfl, hauthority, hunopened⟩ := takeOpened_eq_iff.mp h₂
  obtain ⟨rfl, hpath, hend⟩ := upTo_eq_iff.mp h₃
  obtain ⟨rfl, hquery, hnoquery⟩ := takeOpened_eq_iff.mp h₄
  obtain ⟨rfl, hfragment, hnofragment⟩ := takeOpened_eq_iff.mp h₅
  have hnothing : fragment = none → rest = [] := by
    rintro rfl
    have hstop : StopsAt [0x23] rest := by
      cases query with
      | none => exact hend.of_not_prefix (hnoquery rfl)
      | some q => exact (hquery q rfl).2
    exact stopsAt_no_stops.mp (hstop.of_not_prefix (hnofragment rfl))
  refine ⟨⟨hscheme, ?_, hpath, fun q hq => (hquery q hq).1, fun f hf => (hfragment f hf).1, ?_,
    ?_⟩, rest, ?_, ?_, hnothing⟩
  · intro a ha
    obtain ⟨hfree, hstop⟩ := hauthority a ha
    exact ⟨hfree, hstop.of_free hpath (by simp)⟩
  · exact fun hnone hstart => hunopened hnone (hstart.trans (List.prefix_append _ _))
  · rintro rfl rfl a hstart
    exact hschemeless rfl a (hstart.trans (List.prefix_append _ _))
  · simp only [hs, Url.recompose, List.append_assoc]
  · cases fragment with
    | none => rw [hnothing rfl]; exact stopsAt_nil
    | some f => exact (hfragment f rfl).2

/-- Well-formed parts are found again. -/
theorem parseUrl_recompose {u : Url} (hu : u.WellFormed) {rest : Text}
    (hstop : StopsAt lineTerminators rest) (hnothing : u.fragment = none → rest = []) :
    parseUrl (u.recompose ++ rest) = u := by
  obtain ⟨scheme, authority, path, query, fragment⟩ := u
  have hfragment : takeFragment (opened [0x23] fragment ++ rest) = (fragment, rest) := by
    refine takeOpened_eq_iff.mpr ⟨rfl, fun f hf => ⟨hu.fragment f hf, hstop⟩, fun hnone => ?_⟩
    rw [hnothing hnone]
    simp
  have hafter : StopsAt [0x23] (opened [0x23] fragment ++ rest) := by
    cases fragment with
    | none => rw [hnothing rfl]; exact stopsAt_nil
    | some f => simp [opened]
  have hquery : takeQuery (opened [0x3F] query ++ (opened [0x23] fragment ++ rest)) =
      (query, opened [0x23] fragment ++ rest) := by
    refine takeOpened_eq_iff.mpr ⟨rfl, fun q hq => ⟨hu.query q hq, hafter⟩, ?_⟩
    rintro - ⟨t, ht⟩
    rw [← ht] at hafter
    exact absurd (stopsAt_cons.mp hafter) (by decide)
  have hend : StopsAt [0x3F, 0x23]
      (opened [0x3F] query ++ (opened [0x23] fragment ++ rest)) := by
    cases query with
    | none => exact hafter.mono (by simp)
    | some q => simp [opened]
  have hpath : upTo [0x3F, 0x23] (path ++ (opened [0x3F] query ++ (opened [0x23] fragment ++ rest)))
      = (path, opened [0x3F] query ++ (opened [0x23] fragment ++ rest)) :=
    upTo_of hu.path hend
  have hauthority : takeAuthority (opened [0x2F, 0x2F] authority ++
      (path ++ (opened [0x3F] query ++ (opened [0x23] fragment ++ rest)))) =
      (authority, path ++ (opened [0x3F] query ++ (opened [0x23] fragment ++ rest))) := by
    refine takeOpened_eq_iff.mpr ⟨rfl, fun a ha => ?_, fun hnone hstart => ?_⟩
    · obtain ⟨hfree, hrooted⟩ := hu.authority a ha
      refine ⟨hfree, ?_⟩
      cases path with
      | nil => exact hend.mono (by simp)
      | cons c path => exact stopsAt_cons.mpr (List.mem_cons.mpr (.inl (by simpa using hrooted)))
    · exact hu.unopened hnone (prefix_of_append (by simp) hend hstart)
  have hscheme : takeScheme ((Url.mk scheme authority path query fragment).recompose ++ rest) =
      (scheme, opened [0x2F, 0x2F] authority ++
        (path ++ (opened [0x3F] query ++ (opened [0x23] fragment ++ rest)))) := by
    refine takeScheme_eq_iff.mpr ⟨by simp only [Url.recompose, List.append_assoc], hu.scheme, ?_⟩
    intro hnone a hstart hfree
    cases authority with
    | none =>
      refine hu.schemeless hnone rfl a (prefix_of_append ?_ hend hstart) hfree
      exact free_append.mpr ⟨hfree.mono (by simp), by simp⟩
    | some b =>
      cases a with
      | nil => rfl
      | cons c a =>
        obtain ⟨rfl, -⟩ := List.cons_prefix_cons.mp hstart
        exact absurd (free_cons.mp hfree).1 (by decide)
  simp only [parseUrl, hscheme, hauthority, hpath, hquery, hfragment]

/-- The parts of a text are the well-formed ones that recompose to it, up to the first line
terminator of the fragment. -/
theorem parseUrl_eq_iff (s : Text) (u : Url) :
    parseUrl s = u ↔ u.WellFormed ∧ ∃ rest, s = u.recompose ++ rest ∧
      StopsAt lineTerminators rest ∧ (u.fragment = none → rest = []) := by
  constructor
  · rintro rfl
    exact wellFormed_parseUrl s
  · rintro ⟨hu, rest, rfl, hstop, hnothing⟩
    exact parseUrl_recompose hu hstop hnothing

/-- What stands before the fragment has no mark of one. -/
theorem free_beforeFragment {u : Url} (hu : u.WellFormed) :
    Free [0x23] (schemed u.scheme ++ (opened [0x2F, 0x2F] u.authority ++
      (u.path ++ opened [0x3F] u.query))) := by
  refine free_append.mpr ⟨?_, free_append.mpr ⟨?_, free_append.mpr ⟨hu.path.mono (by simp), ?_⟩⟩⟩
  · cases hscheme : u.scheme with
    | none => simp [schemed]
    | some a => exact free_append.mpr ⟨(hu.scheme a hscheme).2.mono (by simp), by simp⟩
  · cases hauthority : u.authority with
    | none => simp [opened]
    | some a => exact free_append.mpr ⟨by simp, (hu.authority a hauthority).1.mono (by simp)⟩
  · cases hquery : u.query with
    | none => simp [opened]
    | some q => exact free_append.mpr ⟨by simp, hu.query q hquery⟩

/-- The parts of a text recompose to it exactly when no line terminator follows its first
number sign. -/
theorem recompose_parseUrl_iff (s : Text) :
    (parseUrl s).recompose = s ↔ Free lineTerminators (upTo [0x23] s).2 := by
  obtain ⟨hu, rest, hs, hstop, hnothing⟩ := wellFormed_parseUrl s
  generalize parseUrl s = u at hu hs hstop hnothing ⊢
  subst hs
  have hcut : upTo [0x23] (u.recompose ++ rest) =
      (schemed u.scheme ++ (opened [0x2F, 0x2F] u.authority ++ (u.path ++ opened [0x3F] u.query)),
        opened [0x23] u.fragment ++ rest) := by
    refine upTo_eq_iff.mpr ⟨by simp only [Url.recompose, List.append_assoc],
      free_beforeFragment hu, ?_⟩
    cases hfragment : u.fragment with
    | none => rw [hnothing hfragment]; exact stopsAt_nil
    | some f => simp [opened]
  rw [hcut, List.self_eq_append_right, free_append]
  constructor
  · rintro rfl
    refine ⟨?_, free_nil⟩
    cases hfragment : u.fragment with
    | none => exact free_nil
    | some f => exact free_append.mpr ⟨by decide, hu.fragment f hfragment⟩
  · exact fun h => hstop.eq_nil h.2

/-! ### Issuers to refresh -/

/-- The text is an empty query and an empty fragment, either of which may be missing; the
fragment is empty as far as it is looked at. -/
def Blank (s : Text) : Prop :=
  ∃ query fragment rest, s = opened [0x3F] query ++ (opened [0x23] fragment ++ rest) ∧
    query.getD [] = [] ∧ fragment.getD [] = [] ∧ StopsAt lineTerminators rest ∧
    (fragment = none → rest = [])

/-- The issuers that pass as ones to refresh are the texts that begin with `https:` and end
without query and fragment, given a bundle. -/
theorem checkAutoRefresh_iff (issuer : Text) (bundle : Option Json) :
    checkAutoRefresh issuer bundle = .ok () ↔ truthy bundle = true ∧
      ∃ place tail, issuer = text "https:" ++ (place ++ tail) ∧ Free [0x3F, 0x23] place ∧
        Blank tail := by
  rw [checkAutoRefresh_eq_ok]
  refine and_congr_right fun _ => ?_
  have hhttps : text "https:" = schemed (some (text "https")) := by decide
  rw [hhttps]
  constructor
  · rintro ⟨hscheme, hquery, hfragment⟩
    obtain ⟨hu, rest, hs, hstop, hnothing⟩ := wellFormed_parseUrl issuer
    generalize parseUrl issuer = u at hu hs hstop hnothing hscheme hquery hfragment
    refine ⟨opened [0x2F, 0x2F] u.authority ++ u.path, _, ?_, ?_, u.query, u.fragment, rest, rfl,
      hquery, hfragment, hstop, hnothing⟩
    · simp only [hs, Url.recompose, hscheme, List.append_assoc]
    · refine free_append.mpr ⟨?_, hu.path⟩
      cases hauthority : u.authority with
      | none => exact free_nil
      | some a => exact free_append.mpr ⟨by simp, (hu.authority a hauthority).1.mono (by simp)⟩
  · rintro ⟨place, tail, rfl, hplace, query, fragment, rest, rfl, hquery, hfragment, hstop,
      hnothing⟩
    rcases hcut : takeAuthority place with ⟨authority, path⟩
    obtain ⟨rfl, hauthority, hunopened⟩ := takeOpened_eq_iff.mp hcut
    have hpath : Free [0x3F, 0x23] path := (free_append.mp hplace).2
    have hu : (Url.mk (some (text "https")) authority path query fragment).WellFormed := by
      refine ⟨?_, fun a ha => ?_, hpath, ?_, ?_, hunopened, nofun⟩
      · rintro _ ⟨⟩
        decide
      · obtain ⟨hfree, hstops⟩ := hauthority a ha
        rw [← List.append_nil path] at hstops
        exact ⟨hfree, hstops.of_free hpath (by simp)⟩
      · rintro q rfl
        cases (show q = [] from hquery)
        exact free_nil
      · rintro f rfl
        cases (show f = [] from hfragment)
        exact free_nil
    have hparse := parseUrl_recompose hu hstop hnothing
    simp only [Url.recompose, List.append_assoc] at hparse
    rw [List.append_assoc, hparse]
    exact ⟨rfl, hquery, hfragment⟩

end CcfIdentity.Constitution
