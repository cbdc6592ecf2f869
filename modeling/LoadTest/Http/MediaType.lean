/-
**Media types.**

A media type is a type, a slash and a subtype, which may end with a suffix behind a plus sign.
Behind a semicolon stand parameters: a name, an equals sign, and a value, quoted or not.
Case does not count in the type, the subtype and the suffix.

* `MediaType.parse?`: the media type of a text;
* `MediaType.isJson`: whether it is that of JSON.
-/

import LoadTest.Header
import LoadTest.Text.Cut

namespace LoadTest

open Text

/-- A media type in small letters, without its parameters. -/
structure MediaType where
  type : String
  subtype : String
  suffix : Option String
deriving DecidableEq

namespace MediaType

/-- Where a reading of parameters stands. -/
inductive Mode where
  /-- in front of a parameter -/
  | start
  | name
  /-- right behind the equals sign -/
  | valueStart
  | value
  /-- right behind the opening quote -/
  | quoteStart
  | quoted
  /-- behind the closing quote -/
  | behind
deriving DecidableEq

/-- Whether a character may stand between quotes. -/
def isQuotable (c : Char) : Bool := 0x20 ≤ c.toNat && c.toNat != 0x7F

/-- The reading of parameters after one more character. -/
def step : Mode → Char → Option Mode
  | .start, c => if c = ' ' then some .start else if Header.isTokenChar c then some .name else none
  | .name, c => if Header.isTokenChar c then some .name else if c = '=' then some .valueStart else none
  | .valueStart, c =>
    if c = '"' then some .quoteStart else if Header.isTokenChar c then some .value else none
  | .value, c => if Header.isTokenChar c then some .value else if c = ';' then some .start else none
  | .quoteStart, c => if isQuotable c then some .quoted else none
  | .quoted, c => if c = '"' then some .behind else if isQuotable c then some .quoted else none
  | .behind, c => if c = ' ' then some .behind else if c = ';' then some .start else none

/-- Whether parameters may end where a reading of them stands. -/
def Mode.isEnd : Mode → Bool
  | .start | .valueStart | .value | .behind => true
  | _ => false

/-- Whether a text is made of parameters. -/
def areParameters (text : List Char) : Bool := (text.foldlM step .start).any Mode.isEnd

/-- A text in small letters. -/
def folded (text : List Char) : String := String.ofList (text.map Char.toLower)

/-- The subtype and its suffix, which stands behind the last plus sign that is not the first
character. -/
def splitSuffix : List Char → String × Option String
  | [] => ("", none)
  | c :: rest =>
    match splitLast '+' rest with
    | none => (folded (c :: rest), none)
    | some (before, after) => (folded (c :: before), some (folded after))

/-- **The media type of a text.** -/
def parse? (text : List Char) : Option MediaType :=
  let type := text.takeWhile Header.isTokenChar
  match type, text.dropWhile Header.isTokenChar with
  | _ :: _, '/' :: rest =>
    let essence := rest.takeWhile Header.isTokenChar
    let (subtype, suffix) := splitSuffix essence
    let parsed : MediaType := ⟨folded type, subtype, suffix⟩
    match essence, rest.dropWhile Header.isTokenChar with
    | _, [] => some parsed
    | _ :: _, c :: parameters =>
      if c = ';' && areParameters parameters then some parsed else none
    | [], _ => none
  | _, _ => none

/-- **Whether the media type is that of JSON.** -/
def isJson (mediaType : MediaType) : Bool :=
  mediaType.type = "application" &&
    (mediaType.subtype = "json" || mediaType.suffix = some "json")

end MediaType

end LoadTest
