/-
**The headers of a request.**

Headers are found by their names in small letters, each name at most once. Setting a header
replaces the one of that name, whatever its case.

* `Headers.set`: one more header, if a request can carry it;
* `Headers.setAll`: headers in their order, the later winning.
-/

import LoadTest.Header
import LoadTest.Table

namespace LoadTest

/-- Headers by their names in small letters. -/
abbrev Headers := Table String

namespace Headers

/-- The value of a header. -/
def value? (headers : Headers) (name : String) : Option String := headers.get? (Header.folded name)

/-- **The headers with one more**, which replaces an older one of that name. -/
def set (headers : Headers) (name value : String) : Except HeaderFault Headers :=
  (Header.checkSendable name value).map fun _ => headers.insert (Header.folded name) value

/-- The headers with a value under a name that has none. -/
def setDefault (headers : Headers) (name value : String) : Headers :=
  headers.insertNew (Header.folded name) value

/-- The headers with more of them, or the name of the first that cannot be carried. -/
def setAll (headers : Headers) :
    List (String × String) → Except (String × HeaderFault) Headers
  | [] => .ok headers
  | (name, value) :: rest =>
    match headers.set name value with
    | .ok headers => headers.setAll rest
    | .error fault => .error (name, fault)

end Headers

end LoadTest
