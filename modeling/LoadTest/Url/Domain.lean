/-
**Domain names.**

A domain name is written in lower-case ASCII letters. Every character counts as what the tables say
it does, and the outcome is composed. A label with other characters is then written as `xn--` and
its encoding; one that comes as an encoding must stand for a label that counts as itself.

A label begins with no mark and holds no character of the syntax around it; characters that join
stand where they show, and the labels of a name from right to left are ordered.

* `Domain.toAscii?`: the ASCII form of a name;
* `Domain.Label.ofText?`: what a label means and how it is written.
-/

import LoadTest.Text.Compose
import LoadTest.Url.Domain.Direction
import LoadTest.Url.Domain.Joining
import LoadTest.Url.Domain.Mapping
import LoadTest.Url.Domain.Punycode

namespace LoadTest.Domain

open Text

/-- Whether a text is ASCII. -/
def isAscii (text : List Char) : Bool := text.all (·.toNat < 0x80)

/-- Characters that no name may hold. -/
def isForbidden (c : Char) : Bool :=
  c.toNat ≤ 0x20 || c.toNat = 0x7F ||
    ['#', '%', '/', ':', '<', '>', '?', '@', '[', '\\', ']', '^', '|'].contains c

/-- What begins an encoded label. -/
def encodedLead : List Char := ['x', 'n', '-', '-']

/-- A label of a name. -/
structure Label where
  /-- what it means -/
  meaning : List Char
  /-- how it is written in ASCII -/
  ascii : List Char

/-- What an encoding means. It is refused if it ends in a hyphen or is longer than 2000 characters,
and if it means a label that would count as another one. -/
def meaning? (encoded : List Char) : Option (List Char) := do
  if encoded.isEmpty || encoded.getLast? = some '-' || 2000 < encoded.length then none
  let meaning ← Punycode.decode? encoded
  if isAscii encoded && meaning.all isSettled && compose meaning = meaning then some meaning
  else none

/-- The label of a text in which every character counts as itself. -/
def Label.ofText? (text : List Char) : Option Label :=
  match dropLead? encodedLead text with
  | some encoded => (meaning? encoded).map fun meaning => ⟨meaning, text⟩
  | none =>
    if isAscii text then some ⟨text, text⟩
    else if 1000 < text.length then none
    else some ⟨text, encodedLead ++ Punycode.encode text⟩

/-- Whether a label begins with a mark. -/
def beginsWithMark (label : List Char) : Bool := (label.head?.map isMark).getD false

/-- Whether a name may hold a label, but for the order of its characters. -/
def isLabel (label : List Char) : Bool :=
  !label.any isForbidden && (isAscii label || !beginsWithMark label && areJoinersSeen label)

/-- What a name counts as, if it may hold its characters. -/
def counted? (name : List Char) : Option (List Char) := do
  let text := (← name.mapM countsAs?).flatten
  if isAscii text then some text else some (compose text)

/-- **The ASCII form of a name**, if it has one. -/
def toAscii? (name : List Char) : Option (List Char) := do
  let labels ← ((← counted? name).splitOn '.').mapM Label.ofText?
  let meanings := labels.map Label.meaning
  if meanings.all isLabel && areOrdered meanings then
    some (['.'].intercalate (labels.map Label.ascii))
  else none

end LoadTest.Domain
