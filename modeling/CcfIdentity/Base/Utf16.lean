import Mathlib.Data.List.Basic

/-!
# JavaScript string values

A string is its sequence of UTF-16 code units. Lone surrogates are values like any
other, so every string a JSON escape can denote is one of these.
-/

namespace Utf16

/-- A JavaScript string value. -/
abbrev Text := List UInt16

/-- The one or two code units of a Unicode scalar value. -/
def encode (c : Char) : Text :=
  if c.val < 0x10000 then [c.val.toUInt16]
  else [(0xD800 + (c.val - 0x10000) / 0x400).toUInt16,
    (0xDC00 + (c.val - 0x10000) % 0x400).toUInt16]

/-- The value of a source literal. -/
def text (s : String) : Text := s.toList.flatMap encode

/-- `String.prototype.split` with a separator of one code unit and a limit. -/
def split (s : Text) (separator : UInt16) (limit : Nat) : List Text :=
  (s.splitOn separator).take limit

example : split (text "Bearer a.b c") 0x20 2 = [text "Bearer", text "a.b"] := by decide

end Utf16
