import Mathlib.Data.Set.Basic

/-!
# Deny-overrides decisions

A request is made under several identifiers at once. It is permitted when some role they
hold allows the resource and none denies it. A decision that hears the denials of only
some of the identifiers is a weaker one; `permitsHearing_iff_permits` says when the two
agree.
-/

namespace DenyOverrides

/-- Who holds which role, and which resources each role allows and denies. -/
structure Policy (Id Role Resource : Type*) where
  holds : Id → Role → Prop
  allows : Role → Resource → Prop
  denies : Role → Resource → Prop

namespace Policy

variable {Id Role Resource : Type*} (P : Policy Id Role Resource)

/-- Some role held by one of the identifiers allows the resource. -/
def Allowed (ids : Set Id) (x : Resource) : Prop :=
  ∃ id ∈ ids, ∃ r, P.holds id r ∧ P.allows r x

/-- Some role held by one of the identifiers denies the resource. -/
def Denied (ids : Set Id) (x : Resource) : Prop :=
  ∃ id ∈ ids, ∃ r, P.holds id r ∧ P.denies r x

/-- Deny overrides: allowed and not denied. -/
def Permits (ids : Set Id) (x : Resource) : Prop := P.Allowed ids x ∧ ¬ P.Denied ids x

/-- The decision that hears the denials of `voices` only. -/
def PermitsHearing (voices ids : Set Id) (x : Resource) : Prop :=
  P.Allowed ids x ∧ ¬ P.Denied voices x

variable {P}

/-- More identifiers deny more. -/
theorem Denied.mono {ids ids' : Set Id} {x : Resource} (hsub : ids ⊆ ids')
    (h : P.Denied ids x) : P.Denied ids' x := by
  obtain ⟨id, hid, r, hr⟩ := h
  exact ⟨id, hsub hid, r, hr⟩

/-- Hearing only some of the identifiers decides as deny-overrides does unless a denial
of an allowed resource comes from the others alone. -/
theorem permitsHearing_iff_permits {voices ids : Set Id} {x : Resource}
    (hsub : voices ⊆ ids) :
    (P.PermitsHearing voices ids x ↔ P.Permits ids x) ↔
      (P.Allowed ids x → P.Denied ids x → P.Denied voices x) := by
  constructor
  · intro hiff hallowed hdenied
    by_contra hsilent
    exact (hiff.mp ⟨hallowed, hsilent⟩).2 hdenied
  · intro hheard
    constructor
    · rintro ⟨hallowed, hsilent⟩
      exact ⟨hallowed, fun hdenied => hsilent (hheard hallowed hdenied)⟩
    · rintro ⟨hallowed, hdenied⟩
      exact ⟨hallowed, fun hvoiced => hdenied (hvoiced.mono hsub)⟩

end Policy

end DenyOverrides
