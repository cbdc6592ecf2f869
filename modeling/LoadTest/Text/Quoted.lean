/-
**Quoted text.**

Messages show a piece of input between double quotes. A quote and a backslash stand behind a
backslash, four controls have a letter, and a character that does not show by itself is written as
its code point in lower-case hexadecimal digits.

* `quote`: the quoted text;
* `escape`: what stands for one character.
-/

import LoadTest.Text.Shown

namespace LoadTest.Text

/-- What stands for a character between the quotes. -/
def escape (c : Char) : List Char :=
  if c = '"' then ['\\', '"']
  else if c = '\\' then ['\\', '\\']
  else if c = '\n' then ['\\', 'n']
  else if c = '\r' then ['\\', 'r']
  else if c = '\t' then ['\\', 't']
  else if c = '\x00' then ['\\', '0']
  else if isShown c then [c]
  else '\\' :: 'u' :: '\x7b' :: Nat.toDigits 16 c.toNat ++ ['\x7d']

/-- The text between double quotes. -/
def quote (text : String) : String :=
  String.ofList ('"' :: text.toList.flatMap escape ++ ['"'])

end LoadTest.Text
