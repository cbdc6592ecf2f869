/-
**Percent signs.**

A byte that may not stand in a part of a URL is written as a percent sign and two hexadecimal
digits. Each part has its own set of such characters; controls and everything beyond ASCII belong
to all of them.

* `Percent.encode`: a text with the characters of a set written as bytes;
* `Percent.decode`: the bytes that a text stands for;
* `Percent.pathSet`, `Percent.querySet` and others: the sets.
-/

import LoadTest.Text.Base

namespace LoadTest.Percent

/-- A hexadecimal digit in upper case. -/
def digitChar (digit : Nat) : Char :=
  if digit < 10 then Char.ofNat ('0'.toNat + digit) else Char.ofNat ('A'.toNat + digit - 10)

/-- A byte behind a percent sign. -/
def byte (b : UInt8) : List Char := ['%', digitChar (b.toNat / 16), digitChar (b.toNat % 16)]

/-- The bytes of a text. -/
def utf8 (text : List Char) : List UInt8 := text.flatMap String.utf8EncodeChar

/-- Controls and what lies beyond ASCII. -/
def controlSet (c : Char) : Bool := c.toNat < 0x20 || 0x7F ≤ c.toNat

/-- What may not stand in a fragment. -/
def fragmentSet (c : Char) : Bool := controlSet c || [' ', '"', '<', '>', '\x60'].contains c

/-- What may not stand in a query. -/
def querySet (c : Char) : Bool := controlSet c || [' ', '"', '#', '<', '>'].contains c

/-- What may not stand in a query of a scheme with its own rules. -/
def specialQuerySet (c : Char) : Bool := querySet c || c = '\''

/-- What may not stand in a path. -/
def pathSet (c : Char) : Bool := fragmentSet c || ['#', '?', '\x7b', '\x7d'].contains c

/-- What may not stand in a user name or a password. -/
def userSet (c : Char) : Bool :=
  pathSet c || ['/', ':', ';', '=', '@', '[', '\\', ']', '^', '|'].contains c

/-- **The text with the characters of a set written as bytes.** -/
def encode (set : Char → Bool) (text : List Char) : List Char :=
  text.flatMap fun c => if set c then (String.utf8EncodeChar c).flatMap byte else [c]

/-- **The bytes that a text stands for**; a percent sign without two digits stands for itself. -/
def decode : List Char → List UInt8
  | '%' :: high :: low :: rest =>
    match Text.hexDigit? high, Text.hexDigit? low with
    | some h, some l => UInt8.ofNat (16 * h + l) :: decode rest
    | _, _ => utf8 ['%'] ++ decode (high :: low :: rest)
  | c :: rest => utf8 [c] ++ decode rest
  | [] => []

/-- The text of bytes, if they are UTF-8. -/
def text? (bytes : List UInt8) : Option String := String.fromUTF8? ⟨bytes.toArray⟩

end LoadTest.Percent
