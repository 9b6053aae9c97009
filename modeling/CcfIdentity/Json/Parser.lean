import CcfIdentity.Json.Lexer

/-!
# Parsing JSON texts

A pushdown automaton over tokens. The stack holds the arrays and objects that are open
around the current point, innermost first. A later member replaces an earlier one of the
same name; where it stands among the members is of no account, as nothing enumerates those of
a parsed value. Every string in a parsed value is one of the text's string tokens
(`mentions_parse`).
-/

open Utf16

namespace Json

/-- An open array with its elements so far, or an open object with its members so far and
the name of the member being read. -/
inductive Frame where
  | elements (xs : List Json)
  | member (ms : List (Text × Json)) (name : Text)

/-- What the grammar allows next: a value; a value or the end of an empty array; a name or
the end of an empty object; a name after a comma; the colon after a name; or, after a
value, whatever may follow it in the innermost open frame. -/
inductive Expect where
  | value
  | firstElement
  | firstName
  | name (ms : List (Text × Json))
  | colon (ms : List (Text × Json)) (name : Text)
  | after (v : Json)

/-- Read a value's first token: all of a scalar, or the opening of an array or object. -/
def valueStep (stack : List Frame) : Token → Option (Expect × List Frame)
  | .beginArray => some (.firstElement, stack)
  | .beginObject => some (.firstName, stack)
  | .str s => some (.after (.str s), stack)
  | .num d => some (.after (.num d), stack)
  | .bool b => some (.after (.bool b), stack)
  | .null => some (.after .null, stack)
  | _ => none

/-- Read one token, or `none` where the grammar has no such token. -/
def parseStep : Expect × List Frame → Token → Option (Expect × List Frame)
  | (.value, stack), token => valueStep stack token
  | (.firstElement, stack), .endArray => some (.after (.arr []), stack)
  | (.firstElement, stack), token => valueStep (.elements [] :: stack) token
  | (.firstName, stack), .endObject => some (.after (.obj []), stack)
  | (.firstName, stack), .str name => some (.colon [] name, stack)
  | (.name ms, stack), .str name => some (.colon ms name, stack)
  | (.colon ms name, stack), .nameSeparator => some (.value, .member ms name :: stack)
  | (.after v, .elements xs :: stack), .valueSeparator =>
    some (.value, .elements (xs ++ [v]) :: stack)
  | (.after v, .elements xs :: stack), .endArray => some (.after (.arr (xs ++ [v])), stack)
  | (.after v, .member ms name :: stack), .valueSeparator =>
    some (.name (setMember name v ms), stack)
  | (.after v, .member ms name :: stack), .endObject =>
    some (.after (.obj (setMember name v ms)), stack)
  | _, _ => none

/-- Read a run of tokens. -/
def parseFrom : Expect × List Frame → List Token → Option (Expect × List Frame)
  | config, [] => some config
  | config, token :: tokens => (parseStep config token).bind fun next => parseFrom next tokens

/-- The value of a complete text: one value with nothing left open around it. -/
def complete : Expect × List Frame → Option Json
  | (.after v, []) => some v
  | _ => none

/-- `JSON.parse`, with `none` for the `SyntaxError` it throws. -/
def parse (s : Text) : Option Json :=
  (lex s).bind fun tokens => (parseFrom (.value, []) tokens).bind complete

/-! ### Where the strings of a value come from -/

/-- The frame holds a value that mentions `s`. -/
def Frame.Mentions (s : Text) : Frame → Prop
  | elements xs => ∃ v ∈ xs, Json.Mentions s v
  | member ms _ => ∃ m ∈ ms, Json.Mentions s m.2

/-- The point of the grammar holds a value that mentions `s`. -/
def Expect.Mentions (s : Text) : Expect → Prop
  | name ms => ∃ m ∈ ms, Json.Mentions s m.2
  | colon ms _ => ∃ m ∈ ms, Json.Mentions s m.2
  | after v => Json.Mentions s v
  | _ => False

/-- Some value read so far mentions `s`. -/
def Held (s : Text) (config : Expect × List Frame) : Prop :=
  config.1.Mentions s ∨ ∃ frame ∈ config.2, frame.Mentions s

/-- An array mentions what its elements mention. -/
theorem mentions_arr {s : Text} {xs : List Json} :
    Mentions s (arr xs) ↔ ∃ v ∈ xs, Mentions s v :=
  ⟨fun h => by cases h with | arr hv hs => exact ⟨_, hv, hs⟩, fun ⟨_, hv, hs⟩ => .arr hv hs⟩

/-- An object mentions what its members' values mention. -/
theorem mentions_obj {s : Text} {ms : List (Text × Json)} :
    Mentions s (obj ms) ↔ ∃ m ∈ ms, Mentions s m.2 :=
  ⟨fun h => by cases h with | obj hm hs => exact ⟨_, hm, hs⟩, fun ⟨_, hm, hs⟩ => .obj hm hs⟩

private theorem mentions_setMember {s name : Text} {v : Json} {ms : List (Text × Json)}
    (h : ∃ m ∈ setMember name v ms, Mentions s m.2) :
    Mentions s v ∨ ∃ m ∈ ms, Mentions s m.2 := by
  obtain ⟨m, hm, hs⟩ := h
  rcases mem_setMember hm with rfl | hm
  · exact .inl hs
  · exact .inr ⟨m, hm, hs⟩

private theorem mentions_concat {s : Text} {v : Json} {xs : List Json}
    (h : ∃ w ∈ xs ++ [v], Mentions s w) : Mentions s v ∨ ∃ w ∈ xs, Mentions s w := by
  obtain ⟨w, hw, hs⟩ := h
  rcases List.mem_append.mp hw with hw | hw
  · exact .inr ⟨w, hw, hs⟩
  · exact .inl (List.mem_singleton.mp hw ▸ hs)

private theorem held_push {s : Text} {expect : Expect} {frame : Frame} {stack : List Frame} :
    Held s (expect, frame :: stack) ↔ frame.Mentions s ∨ Held s (expect, stack) := by
  simp only [Held, List.exists_mem_cons_iff]
  tauto

-- Completing an element or a member moves `v` from the current point into the frame.
private theorem held_after {s : Text} {v : Json} {frame : Frame} {stack : List Frame}
    (h : (Mentions s v ∨ frame.Mentions s) ∨ ∃ outer ∈ stack, outer.Mentions s) :
    Held s (.after v, frame :: stack) := by
  rw [held_push]
  rcases h with (h | h) | h
  · exact .inr (.inl h)
  · exact .inl h
  · exact .inr (.inr h)

private theorem held_valueStep {s : Text} {stack : List Frame} {token : Token}
    {next : Expect × List Frame} (h : valueStep stack token = some next) (hs : Held s next) :
    token = .str s ∨ ∃ frame ∈ stack, frame.Mentions s := by
  cases token with
  | str t =>
    cases h
    rcases hs with hs | hs
    · cases hs
      exact .inl rfl
    · exact .inr hs
  | num d | bool b | null =>
    cases h
    rcases hs with hs | hs
    · cases hs
    · exact .inr hs
  | beginArray | beginObject =>
    cases h
    exact .inr (hs.resolve_left id)
  | _ => cases h

/-- One token adds at most its own string to those held. -/
theorem held_parseStep {s : Text} {config next : Expect × List Frame} {token : Token}
    (h : parseStep config token = some next) (hs : Held s next) :
    token = .str s ∨ Held s config := by
  unfold parseStep at h
  split at h
  · exact (held_valueStep h hs).imp_right .inr
  · -- an empty array
    cases h
    exact .inr (hs.imp_left fun hv => by simp [Expect.Mentions, mentions_arr] at hv)
  · have hopen := held_valueStep h hs
    simpa [Held, Expect.Mentions, Frame.Mentions] using hopen
  · -- an empty object
    cases h
    exact .inr (hs.imp_left fun hv => by simp [Expect.Mentions, mentions_obj] at hv)
  · cases h
    exact .inr (hs.imp_left fun hv => by simp [Expect.Mentions] at hv)
  · cases h
    exact .inr hs
  · -- the colon moves the members from the current point to a frame
    cases h
    rw [held_push] at hs
    exact .inr (hs.imp_right (Or.resolve_left · id))
  · cases h
    rw [held_push] at hs
    exact .inr (held_after (hs.imp mentions_concat (Or.resolve_left · id)))
  · cases h
    exact .inr (held_after (hs.imp_left fun hv => mentions_concat (mentions_arr.mp hv)))
  · cases h
    exact .inr (held_after (hs.imp_left mentions_setMember))
  · cases h
    exact .inr (held_after (hs.imp_left fun hv => mentions_setMember (mentions_obj.mp hv)))
  · cases h

/-- A run of tokens holds only strings that it started with or that are among its tokens. -/
theorem held_parseFrom {s : Text} {config next : Expect × List Frame} {tokens : List Token}
    (h : parseFrom config tokens = some next) (hs : Held s next) :
    .str s ∈ tokens ∨ Held s config := by
  induction tokens generalizing config with
  | nil => cases h; exact .inr hs
  | cons token tokens ih =>
    obtain ⟨mid, hstep, hrest⟩ := Option.bind_eq_some_iff.mp h
    rcases ih hrest with hm | hm
    · exact .inl (List.mem_cons_of_mem _ hm)
    · rcases held_parseStep hstep hm with rfl | hm
      · exact .inl List.mem_cons_self
      · exact .inr hm

/-- Every string of a parsed value is one of the text's string tokens. -/
theorem mentions_parse {s text : Text} {v : Json} {tokens : List Token}
    (htokens : lex text = some tokens) (h : parse text = some v) (hs : Mentions s v) :
    .str s ∈ tokens := by
  simp only [parse, htokens, Option.bind_some] at h
  obtain ⟨⟨expect, stack⟩, hrun, hcomplete⟩ := Option.bind_eq_some_iff.mp h
  have hheld : Held s (expect, stack) := by
    cases expect with
    | after w =>
      cases stack with
      | nil => cases hcomplete; exact .inl hs
      | cons frame stack => cases hcomplete
    | _ => cases hcomplete
  rcases held_parseFrom hrun hheld with hm | hm
  · exact hm
  · rcases hm with hm | ⟨_, hm, -⟩
    · exact hm.elim
    · cases hm

example : parse (text "\x7b\"roles\": [ \"a\", 1e2 ]\x7d") =
    some (.obj [(text "roles", .arr [.str (text "a"), .num ⟨false, 1, 2⟩])]) := rfl

end Json
