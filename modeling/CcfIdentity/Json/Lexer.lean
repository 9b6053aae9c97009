import CcfIdentity.Json.Value

/-!
# Lexical grammar of JSON texts

A transducer over code units, with one state for each point inside a token at which the
grammar branches. White space separates tokens and is otherwise dropped; a string token
carries its decoded value. The bound `lexFrom_str_length` says that decoding a literal
never lengthens it, and `plain_of_lexFrom` that only a text without escapes, quotes and
controls can come out of the lexer as long as it went in.
-/

open Utf16

namespace Json

/-- A token of a JSON text. -/
inductive Token where
  | beginObject
  | endObject
  | beginArray
  | endArray
  | nameSeparator
  | valueSeparator
  | str (s : Text)
  | num (d : Decimal)
  | bool (b : Bool)
  | null

/-- Points inside a number literal: after its minus sign, a leading zero, the digits of
the integer part, the decimal point, the digits of the fraction, the exponent mark, the
sign of the exponent and the digits of the exponent. -/
inductive NumberPhase where
  | sign
  | zero
  | integer
  | point
  | fraction
  | mark
  | markSign
  | exponent

/-- The part of a number literal read so far. -/
structure NumberScan where
  negative : Bool
  digits : Nat
  places : Nat
  exponentNegative : Bool
  exponent : Nat

/-- What the lexer is in the middle of. A string state carries the value decoded so far. -/
inductive LexState where
  | start
  | string (content : Text)
  | escape (content : Text)
  | unicode (content : Text) (more value : Nat)
  | literal (rest : Text) (value : Option Bool)
  | number (phase : NumberPhase) (scan : NumberScan)

/-- The literal names `null`, `true` and `false`. -/
def literalToken : Option Bool → Token
  | none => .null
  | some b => .bool b

/-- The value of a decimal digit. -/
def digit? (c : UInt16) : Option Nat :=
  if 0x30 ≤ c ∧ c ≤ 0x39 then some (c.toNat - 0x30) else none

/-- The value of a hexadecimal digit, in either case. -/
def hexDigit? (c : UInt16) : Option Nat :=
  if 0x30 ≤ c ∧ c ≤ 0x39 then some (c.toNat - 0x30)
  else if 0x41 ≤ c ∧ c ≤ 0x46 then some (c.toNat - 0x41 + 10)
  else if 0x61 ≤ c ∧ c ≤ 0x66 then some (c.toNat - 0x61 + 10)
  else none

/-- The code unit a two-character escape denotes: quotation mark, reverse solidus,
solidus, `b`, `f`, `n`, `r` and `t`. -/
def escaped? (c : UInt16) : Option UInt16 :=
  if c = 0x22 ∨ c = 0x5C ∨ c = 0x2F then some c
  else if c = 0x62 then some 0x08
  else if c = 0x66 then some 0x0C
  else if c = 0x6E then some 0x0A
  else if c = 0x72 then some 0x0D
  else if c = 0x74 then some 0x09
  else none

/-- Phases at which a number literal may end. -/
def NumberPhase.final : NumberPhase → Bool
  | zero => true
  | integer => true
  | fraction => true
  | exponent => true
  | _ => false

/-- The decimal a completed number literal denotes. -/
def NumberScan.value (scan : NumberScan) : Decimal :=
  { negative := scan.negative
    coefficient := scan.digits
    exponent := (if scan.exponentNegative then -(scan.exponent : Int) else scan.exponent) -
      scan.places }

/-- Continue a number literal, or `none` where the code unit is not part of it. -/
def numberStep (phase : NumberPhase) (scan : NumberScan) (c : UInt16) :
    Option (NumberPhase × NumberScan) :=
  let isMark := c = 0x65 ∨ c = 0x45
  match phase, digit? c with
  | .sign, some 0 => some (.zero, scan)
  | .sign, some d => some (.integer, { scan with digits := d })
  | .zero, none =>
    if c = 0x2E then some (.point, scan) else if isMark then some (.mark, scan) else none
  | .integer, some d => some (.integer, { scan with digits := scan.digits * 10 + d })
  | .integer, none =>
    if c = 0x2E then some (.point, scan) else if isMark then some (.mark, scan) else none
  | .point, some d =>
    some (.fraction, { scan with digits := scan.digits * 10 + d, places := scan.places + 1 })
  | .fraction, some d =>
    some (.fraction, { scan with digits := scan.digits * 10 + d, places := scan.places + 1 })
  | .fraction, none => if isMark then some (.mark, scan) else none
  | .mark, some d => some (.exponent, { scan with exponent := d })
  | .mark, none =>
    if c = 0x2B then some (.markSign, scan)
    else if c = 0x2D then some (.markSign, { scan with exponentNegative := true })
    else none
  | .markSign, some d => some (.exponent, { scan with exponent := d })
  | .exponent, some d => some (.exponent, { scan with exponent := scan.exponent * 10 + d })
  | _, _ => none

/-- A token of a single code unit. -/
def punctuator? (c : UInt16) : Option Token :=
  if c = 0x7B then some .beginObject
  else if c = 0x7D then some .endObject
  else if c = 0x5B then some .beginArray
  else if c = 0x5D then some .endArray
  else if c = 0x3A then some .nameSeparator
  else if c = 0x2C then some .valueSeparator
  else none

/-- The state after the first code unit of a longer token. -/
def opening? (c : UInt16) : Option LexState :=
  if c = 0x22 then some (.string [])
  else if c = 0x74 then some (.literal (text "rue") (some true))
  else if c = 0x66 then some (.literal (text "alse") (some false))
  else if c = 0x6E then some (.literal (text "ull") none)
  else if c = 0x2D then some (.number .sign ⟨true, 0, 0, false, 0⟩)
  else (digit? c).map fun d =>
    .number (if d = 0 then .zero else .integer) ⟨false, d, 0, false, 0⟩

/-- A code unit between tokens: white space, or the first of a token. -/
def startStep (c : UInt16) : Option (LexState × List Token) :=
  if c = 0x20 ∨ c = 0x09 ∨ c = 0x0A ∨ c = 0x0D then some (.start, [])
  else match punctuator? c with
    | some token => some (.start, [token])
    | none => (opening? c).map fun σ => (σ, [])

/-- Read one code unit: the next state and the tokens it completes, or `none` where no
JSON text continues this way. -/
def lexStep : LexState → UInt16 → Option (LexState × List Token)
  | .start, c => startStep c
  | .string content, c =>
    if c = 0x22 then some (.start, [.str content])
    else if c = 0x5C then some (.escape content, [])
    else if c < 0x20 then none
    else some (.string (content ++ [c]), [])
  | .escape content, c =>
    if c = 0x75 then some (.unicode content 3 0, [])
    else (escaped? c).map fun d => (.string (content ++ [d]), [])
  | .unicode content more value, c =>
    (hexDigit? c).map fun d =>
      match more with
      | 0 => (.string (content ++ [UInt16.ofNat (value * 16 + d)]), [])
      | more + 1 => (.unicode content more (value * 16 + d), [])
  | .literal [] _, _ => none
  | .literal (d :: rest) value, c =>
    if c = d then
      if rest = [] then some (.start, [literalToken value])
      else some (.literal rest value, [])
    else none
  | .number phase scan, c =>
    match numberStep phase scan c with
    | some (phase, scan) => some (.number phase scan, [])
    | none =>
      -- the literal ends before `c`, which starts whatever follows it
      if phase.final then
        (startStep c).map fun next => (next.1, .num scan.value :: next.2)
      else none

/-- Read a run of code units. -/
def lexFrom : LexState → Text → Option (LexState × List Token)
  | σ, [] => some (σ, [])
  | σ, c :: cs => (lexStep σ c).bind fun first =>
      (lexFrom first.1 cs).map fun next => (next.1, first.2 ++ next.2)

/-- The tokens completed by the end of the text. -/
def lexEnd : LexState → Option (List Token)
  | .start => some []
  | .number phase scan => if phase.final then some [.num scan.value] else none
  | _ => none

/-- The tokens of a text. -/
def lex (s : Text) : Option (List Token) :=
  (lexFrom .start s).bind fun next => (lexEnd next.1).map fun last => next.2 ++ last

/-! ### Runs of the lexer -/

/-- The lexer reads a concatenation from left to right. -/
theorem lexFrom_append (σ : LexState) (s t : Text) :
    lexFrom σ (s ++ t) = (lexFrom σ s).bind fun first =>
      (lexFrom first.1 t).map fun next => (next.1, first.2 ++ next.2) := by
  induction s generalizing σ with
  | nil => simp [lexFrom]
  | cons c s ih =>
    simp only [List.cons_append, lexFrom]
    cases lexStep σ c with
    | none => rfl
    | some first =>
      simp only [Option.bind_some, ih]
      cases lexFrom first.1 s with
      | none => rfl
      | some next => simp [Function.comp_def]

/-- A run over a concatenation splits into two. -/
theorem lexFrom_append_some {σ σ' : LexState} {s t : Text} {tokens : List Token}
    (h : lexFrom σ (s ++ t) = some (σ', tokens)) :
    ∃ σ₁ first rest, lexFrom σ s = some (σ₁, first) ∧ lexFrom σ₁ t = some (σ', rest) ∧
      tokens = first ++ rest := by
  rw [lexFrom_append] at h
  obtain ⟨⟨σ₁, first⟩, hfirst, hmap⟩ := Option.bind_eq_some_iff.mp h
  obtain ⟨⟨σ₂, rest⟩, hrest, hnext⟩ := Option.map_eq_some_iff.mp hmap
  cases hnext
  exact ⟨σ₁, first, rest, hfirst, hrest, rfl⟩

/-- The tokens of a text are those of its run and of its end, which completes no string. -/
theorem lex_some {s : Text} {tokens : List Token} (h : lex s = some tokens) :
    ∃ σ first last, lexFrom .start s = some (σ, first) ∧ tokens = first ++ last ∧
      ∀ t, Token.str t ∉ last := by
  obtain ⟨⟨σ, first⟩, hrun, hmap⟩ := Option.bind_eq_some_iff.mp h
  obtain ⟨last, hlast, rfl⟩ := Option.map_eq_some_iff.mp hmap
  refine ⟨σ, first, last, hrun, rfl, fun t ht => ?_⟩
  cases σ with
  | start => cases hlast; cases ht
  | number phase scan =>
    simp only [lexEnd] at hlast
    split at hlast
    · cases hlast
      cases List.mem_singleton.mp ht
    · cases hlast
  | _ => cases hlast

/-- How much of a string value a state holds already. -/
def LexState.pending : LexState → Nat
  | .string content => content.length
  | .escape content => content.length
  | .unicode content _ _ => content.length
  | _ => 0

private theorem punctuator?_ne_str {c : UInt16} {token : Token}
    (h : punctuator? c = some token) (s : Text) : token ≠ .str s := by
  unfold punctuator? at h
  split_ifs at h
  all_goals cases h
  all_goals exact Token.noConfusion

private theorem opening?_pending {c : UInt16} {σ : LexState} (h : opening? c = some σ) :
    σ.pending = 0 := by
  unfold opening? at h
  split_ifs at h
  case neg =>
    obtain ⟨d, -, rfl⟩ := Option.map_eq_some_iff.mp h
    rfl
  all_goals cases h
  all_goals rfl

private theorem startStep_emits {c : UInt16} {σ : LexState} {tokens : List Token}
    (h : startStep c = some (σ, tokens)) : σ.pending = 0 ∧ ∀ s, Token.str s ∉ tokens := by
  unfold startStep at h
  split_ifs at h
  · cases h
    exact ⟨rfl, by simp⟩
  · split at h
    · next token hp =>
      cases h
      refine ⟨rfl, fun s hs => ?_⟩
      exact punctuator?_ne_str hp s (List.mem_singleton.mp hs).symm
    · obtain ⟨σ', ho, hσ⟩ := Option.map_eq_some_iff.mp h
      cases hσ
      exact ⟨opening?_pending ho, by simp⟩

/-- One code unit adds at most one unit to a string value, and only a quotation mark
completes one. -/
theorem lexStep_str {σ σ' : LexState} {c : UInt16} {tokens : List Token}
    (h : lexStep σ c = some (σ', tokens)) :
    σ'.pending ≤ σ.pending + 1 ∧
      ∀ s, Token.str s ∈ tokens → s.length ≤ σ.pending ∧ c = 0x22 := by
  cases σ with
  | start =>
    obtain ⟨hp, hs⟩ := startStep_emits h
    exact ⟨by omega, fun s hm => absurd hm (hs s)⟩
  | string content =>
    simp only [lexStep] at h
    split_ifs at h with hq
    all_goals cases h
    all_goals simp [LexState.pending, hq]
  | escape content =>
    simp only [lexStep] at h
    split_ifs at h
    · cases h
      simp [LexState.pending]
    · obtain ⟨d, -, hd⟩ := Option.map_eq_some_iff.mp h
      cases hd
      simp [LexState.pending]
  | unicode content more value =>
    obtain ⟨d, -, hd⟩ := Option.map_eq_some_iff.mp h
    cases more with
    | zero => cases hd; simp [LexState.pending]
    | succ more => cases hd; simp [LexState.pending]
  | literal rest value =>
    cases rest with
    | nil => cases h
    | cons d rest =>
      simp only [lexStep] at h
      split_ifs at h
      all_goals cases h
      · cases value <;> simp [LexState.pending, literalToken]
      · simp [LexState.pending]
  | number phase scan =>
    simp only [lexStep] at h
    split at h
    · cases h
      simp [LexState.pending]
    · split_ifs at h
      obtain ⟨next, hstart, hnext⟩ := Option.map_eq_some_iff.mp h
      cases hnext
      obtain ⟨hp, hs⟩ := startStep_emits hstart
      exact ⟨by omega, fun s hm => absurd hm (by simpa using hs s)⟩

private theorem lexFrom_cons_some {σ σ' : LexState} {c : UInt16} {s : Text}
    {tokens : List Token} (h : lexFrom σ (c :: s) = some (σ', tokens)) :
    ∃ σ₁ first rest, lexStep σ c = some (σ₁, first) ∧
      lexFrom σ₁ s = some (σ', rest) ∧ tokens = first ++ rest := by
  obtain ⟨⟨σ₁, first⟩, hstep, hrest⟩ := Option.bind_eq_some_iff.mp h
  obtain ⟨⟨σ₂, rest⟩, hlex, hnext⟩ := Option.map_eq_some_iff.mp hrest
  cases hnext
  exact ⟨σ₁, first, rest, hstep, hlex, rfl⟩

/-- A string value is shorter than what the lexer had pending and read for it. -/
theorem lexFrom_str_length {σ σ' : LexState} {s t : Text} {tokens : List Token}
    (h : lexFrom σ s = some (σ', tokens)) (ht : Token.str t ∈ tokens) :
    t.length + 1 ≤ σ.pending + s.length := by
  induction s generalizing σ tokens with
  | nil => cases h; cases ht
  | cons c s ih =>
    obtain ⟨σ₁, first, rest, hstep, hlex, rfl⟩ := lexFrom_cons_some h
    obtain ⟨hpending, hstr⟩ := lexStep_str hstep
    rw [List.length_cons]
    rcases List.mem_append.mp ht with ht | ht
    · have := (hstr t ht).1
      omega
    · have := ih hlex ht
      omega

/-- A run that completes a string reads a quotation mark. -/
theorem quote_mem_of_lexFrom {σ σ' : LexState} {s t : Text} {tokens : List Token}
    (h : lexFrom σ s = some (σ', tokens)) (ht : Token.str t ∈ tokens) : (0x22 : UInt16) ∈ s := by
  induction s generalizing σ tokens with
  | nil => cases h; cases ht
  | cons c s ih =>
    obtain ⟨σ₁, first, rest, hstep, hlex, rfl⟩ := lexFrom_cons_some h
    rcases List.mem_append.mp ht with ht | ht
    · rw [((lexStep_str hstep).2 t ht).2]
      exact List.mem_cons_self
    · exact List.mem_cons_of_mem _ (ih hlex ht)

/-! ### Texts that stand for themselves -/

/-- No quotation mark, reverse solidus or control character: between quotation marks
such a text is a string literal, and it denotes itself. -/
def Plain (s : Text) : Prop := ∀ c ∈ s, c ≠ 0x22 ∧ c ≠ 0x5C ∧ ¬ c < 0x20

instance (s : Text) : Decidable (Plain s) := List.decidableBAll _ s

/-- A plain text is read into the string value as it is. -/
theorem lexFrom_plain (content : Text) {s : Text} (h : Plain s) :
    lexFrom (.string content) s = some (.string (content ++ s), []) := by
  induction s generalizing content with
  | nil => simp [lexFrom]
  | cons c s ih =>
    obtain ⟨hquote, hescape, hcontrol⟩ := h c List.mem_cons_self
    have hs : Plain s := fun d hd => h d (List.mem_cons_of_mem _ hd)
    simp [lexFrom, lexStep, hquote, hescape, hcontrol, ih _ hs]

/-- Read up to a quotation mark, only a plain text comes out whole: a quotation mark
inside it ends the literal early, and an escape denotes less than it takes. -/
theorem plain_of_lexFrom {content s : Text} {σ : LexState} {tokens : List Token}
    (h : lexFrom (.string content) (s ++ [0x22]) = some (σ, tokens))
    (ht : Token.str (content ++ s) ∈ tokens) : Plain s := by
  induction s generalizing content tokens with
  | nil => simp [Plain]
  | cons c s ih =>
    obtain ⟨σ₁, first, rest, hstep, hlex, rfl⟩ := lexFrom_cons_some h
    simp only [lexStep] at hstep
    split_ifs at hstep with hquote hescape hcontrol
    · cases hstep
      rcases List.mem_append.mp ht with ht | ht
      · simp at ht
      · have hlength : (content ++ c :: s).length + 1 ≤ 0 + (s ++ [0x22]).length :=
          lexFrom_str_length hlex ht
        simp only [List.length_append, List.length_cons, List.length_nil] at hlength
        omega
    · cases hstep
      have hlength : (content ++ c :: s).length + 1 ≤ content.length + (s ++ [0x22]).length :=
        lexFrom_str_length hlex (by simpa using ht)
      simp only [List.length_append, List.length_cons, List.length_nil] at hlength
      omega
    · cases hstep
      have hs : Plain s := ih hlex (by simpa using ht)
      intro d hd
      rcases List.mem_cons.mp hd with rfl | hd
      · exact ⟨hquote, hescape, hcontrol⟩
      · exact hs d hd

end Json
