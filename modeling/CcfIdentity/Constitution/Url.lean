import CcfIdentity.Base.Spans
import CcfIdentity.Base.Utf16

/-!
# Parts of a URL

`parseUrl`, `samples/logapp/constitution/actions.js:8–23`. Its regular expression has no
alternatives to come back to: each class is left at the first code unit outside it. It
matches every string, and a fragment ends at the first line terminator, after which
nothing is looked at.
-/

open Spans Utf16

namespace CcfIdentity.Constitution

/-- The groups of the match; an optional group that takes no part is `undefined`. -/
structure Url where
  scheme : Option Text
  authority : Option Text
  path : Text
  query : Option Text
  fragment : Option Text
deriving DecidableEq

/-- What `.` does not match. -/
def lineTerminators : List UInt16 := [0x0A, 0x0D, 0x2028, 0x2029]

/-- `^(([^:/?#]+):)?`, and the rest. -/
def takeScheme (s : Text) : Option Text × Text :=
  match upTo [0x3A, 0x2F, 0x3F, 0x23] s with
  | (c :: scheme, 0x3A :: rest) => (some (c :: scheme), rest)
  | _ => (none, s)

/-- `(//([^/?#]*))?`, and the rest. -/
def takeAuthority (s : Text) : Option Text × Text :=
  takeOpened [0x2F, 0x2F] [0x2F, 0x3F, 0x23] s

/-- `(\?([^#]*))?`, and the rest. -/
def takeQuery (s : Text) : Option Text × Text := takeOpened [0x3F] [0x23] s

/-- `(#(.*))?`, and the rest. -/
def takeFragment (s : Text) : Option Text × Text := takeOpened [0x23] lineTerminators s

/-- The parts of the text. -/
def parseUrl (url : Text) : Url :=
  let (scheme, afterScheme) := takeScheme url
  let (authority, afterAuthority) := takeAuthority afterScheme
  let (path, afterPath) := upTo [0x3F, 0x23] afterAuthority
  let (query, afterQuery) := takeQuery afterPath
  { scheme, authority, path, query, fragment := (takeFragment afterQuery).1 }

example : parseUrl (text "https://login.microsoftonline.com/common/v2.0") =
    ⟨some (text "https"), some (text "login.microsoftonline.com"), text "/common/v2.0", none,
      none⟩ := by decide

end CcfIdentity.Constitution
