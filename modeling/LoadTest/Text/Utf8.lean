/-
**Texts as bytes.**

A byte below 128 is a character; a greater one begins a character of two to four bytes and bounds
the byte that comes next. Bytes that begin no character, and characters that are broken off, are
faults; a fault ends where the first byte that cannot go on with it stands.

* `Utf8.characters`: the characters of bytes, with the faults among them;
* `Utf8.decode?`: the text of bytes without faults;
* `Utf8.decodeLossy`: the text with a replacement character for every fault.
-/

namespace LoadTest.Text.Utf8

/-- A character that has begun. -/
structure Begun where
  /-- How many bytes are missing. -/
  missing : Nat
  /-- The least and the greatest byte that can come next. -/
  least : Nat
  most : Nat
  /-- The number that the bytes so far make. -/
  code : Nat
deriving DecidableEq

/-- The character that a byte from 128 on begins. -/
def lead? (byte : Nat) : Option Begun :=
  if byte < 0xC2 then none
  else if byte < 0xE0 then some ⟨1, 0x80, 0xBF, byte - 0xC0⟩
  else if byte = 0xE0 then some ⟨2, 0xA0, 0xBF, 0⟩
  else if byte = 0xED then some ⟨2, 0x80, 0x9F, 0xD⟩
  else if byte < 0xF0 then some ⟨2, 0x80, 0xBF, byte - 0xE0⟩
  else if byte = 0xF0 then some ⟨3, 0x90, 0xBF, 0⟩
  else if byte < 0xF4 then some ⟨3, 0x80, 0xBF, byte - 0xF0⟩
  else if byte = 0xF4 then some ⟨3, 0x80, 0x8F, 4⟩
  else none

/-- What a byte that begins anew gives at once, and the character that it begins. -/
def open? (byte : Nat) : List (Option Char) × Option Begun :=
  if byte < 0x80 then ([some (Char.ofNat byte)], none)
  else
    match lead? byte with
    | some begun => ([], some begun)
    | none => ([none], none)

/-- What one more byte gives, and the character that is then unfinished. -/
def next (begun : Option Begun) (byte : Nat) : List (Option Char) × Option Begun :=
  match begun with
  | none => open? byte
  | some begun =>
    if begun.least ≤ byte ∧ byte ≤ begun.most then
      let code := 64 * begun.code + (byte - 0x80)
      if begun.missing = 1 then ([some (Char.ofNat code)], none)
      else ([], some ⟨begun.missing - 1, 0x80, 0xBF, code⟩)
    else
      let (given, begun) := open? byte
      (none :: given, begun)

/-- The characters of bytes after an unfinished one. -/
def charactersFrom (begun : Option Begun) : List UInt8 → List (Option Char)
  | [] => if begun.isSome then [none] else []
  | byte :: rest => (next begun byte.toNat).1 ++ charactersFrom (next begun byte.toNat).2 rest

/-- **The characters of bytes**, with `none` for every fault. -/
def characters (bytes : List UInt8) : List (Option Char) := charactersFrom none bytes

/-- The text of bytes, if there is no fault in them. -/
def decode? (bytes : List UInt8) : Option String :=
  ((characters bytes).mapM id).map String.ofList

/-- The text of bytes, with a replacement character for every fault. -/
def decodeLossy (bytes : List UInt8) : String :=
  String.ofList ((characters bytes).map fun c => c.getD '\ufffd')

/-- The bytes of a text. -/
def encode (text : String) : List UInt8 := text.toUTF8.toList

end LoadTest.Text.Utf8
