/-
**Header names and values.**

A name is made of token characters and is compared without case. A value may hold no controls other
than tabs; in a plan it may hold nothing beyond Latin-1 either.

* `Header.check`: whether a header may stand in a plan;
* `Header.checkSendable`: whether a request can carry a header.
-/

import LoadTest.Text.Blank

namespace LoadTest

open Text

/-- Why a header may not stand in a plan, or cannot be sent. -/
inductive HeaderFault where
  | name
  | value
  | unsendableName
  | unsendableValue
deriving DecidableEq

/-- The wording of the fault. -/
def HeaderFault.message : HeaderFault → String
  | .name => "not a valid header name"
  | .value => "value contains control or non-latin1 characters"
  | .unsendableName => "invalid HTTP header name"
  | .unsendableValue => "failed to parse header value"

namespace Header

/-- The characters of a token. -/
def isTokenChar (c : Char) : Bool :=
  c.isAlphanum || ['!', '#', '$', '%', '&', '\'', '*', '+', '-', '.', '^', '_', '\x60', '|',
    '~'].contains c

/-- Whether a text is a name. -/
def isName (name : String) : Bool := !name.isEmpty && name.toList.all isTokenChar

/-- Whether a name can be sent; there a quote counts as a token character. -/
def isSendableName (name : String) : Bool :=
  !name.isEmpty && name.toList.all fun c => isTokenChar c || c = '"'

/-- Whether a character may stand in a value of a plan. -/
def isValueChar (c : Char) : Bool := (c = '\t' || !isControl c) && c.toNat ≤ 0xFF

/-- Whether a value can be sent: controls below the space other than tabs and the delete character
cannot. -/
def isSendable (value : String) : Bool :=
  value.toList.all fun c => (c = '\t' || 0x20 ≤ c.toNat) && c.toNat != 0x7F

/-- **Whether a header may stand in a plan.** -/
def check (name value : String) : Except HeaderFault Unit :=
  if !isName name then .error .name
  else if !value.toList.all isValueChar then .error .value
  else .ok ()

/-- **Whether a request can carry a header.** -/
def checkSendable (name value : String) : Except HeaderFault Unit :=
  if !isSendableName name then .error .unsendableName
  else if !isSendable value then .error .unsendableValue
  else .ok ()

/-- The name in small letters, in which names are compared. -/
def folded (name : String) : String := name.map Char.toLower

end Header

end LoadTest
