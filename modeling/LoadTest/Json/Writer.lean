/-
**Writing JSON.**

Compact text has no blanks; the other form gives every item and member a line of its own, two
columns further in than its bracket. Floats keep a point or an exponent, so they differ from whole
numbers, and what is not finite is written as null.

* `Json.tokens`: the tokens of a value;
* `Json.compact` and `Json.pretty`: the two forms.
-/

import LoadTest.Json.Basic
import LoadTest.Json.Token
import LoadTest.Decimal.Layout

namespace LoadTest

open Decimal

/-- JSON floats: positional from `10 ^ -5` to below `10 ^ 16`, whole ones with `.0`. -/
def Json.layout : Layout := ⟨some (-5, 16), true, .toEven⟩

/-- The token of a number; what is not finite has no number. -/
def Number.token : Number → Json.Token
  | natural value => .number (Nat.toDigits 10 value)
  | negative value => .number ('-' :: Nat.toDigits 10 value)
  | float value =>
    if value.isFinite then .number (Json.layout.finite value).toList else .null

namespace Json

/-- The token of a text. -/
def stringToken (text : String) : Token := .string (text.toList.map .char)

mutual

/-- **The tokens of a value.** -/
def tokens : Json → List Token
  | null => [.null]
  | bool value => [.bool value]
  | number value => [value.token]
  | string text => [stringToken text]
  | array items => .openArray :: itemTokens items ++ [.closeArray]
  | object members => .openObject :: memberTokens members ++ [.closeObject]

/-- The tokens of items, with commas between them. -/
def itemTokens : List Json → List Token
  | [] => []
  | [item] => tokens item
  | item :: rest => tokens item ++ .comma :: itemTokens rest

/-- The tokens of members, with commas between them. -/
def memberTokens : List (String × Json) → List Token
  | [] => []
  | [(key, value)] => stringToken key :: .colon :: tokens value
  | (key, value) :: rest => stringToken key :: .colon :: tokens value ++ .comma :: memberTokens rest

end

/-- The text without blanks. -/
def compact (value : Json) : String := String.ofList (value.tokens.flatMap Token.text)

/-- A new line, so many levels in. -/
def newLine (level : Nat) : List Char := '\n' :: List.replicate (2 * level) ' '

mutual

/-- The characters of a value that stands so many levels in. -/
def prettyChars (level : Nat) : Json → List Char
  | null => Token.null.text
  | bool value => (Token.bool value).text
  | number value => value.token.text
  | string text => (stringToken text).text
  | array [] => ['[', ']']
  | array items => '[' :: prettyItems (level + 1) items ++ newLine level ++ [']']
  | object [] => ['\x7b', '\x7d']
  | object members => '\x7b' :: prettyMembers (level + 1) members ++ newLine level ++ ['\x7d']

/-- The lines of items. -/
def prettyItems (level : Nat) : List Json → List Char
  | [] => []
  | [item] => newLine level ++ prettyChars level item
  | item :: rest => newLine level ++ prettyChars level item ++ ',' :: prettyItems level rest

/-- The lines of members. -/
def prettyMembers (level : Nat) : List (String × Json) → List Char
  | [] => []
  | [(key, value)] =>
    newLine level ++ (stringToken key).text ++ ':' :: ' ' :: prettyChars level value
  | (key, value) :: rest =>
    newLine level ++ (stringToken key).text ++ ':' :: ' ' :: prettyChars level value ++
      ',' :: prettyMembers level rest

end

/-- **The text with a line for every item and member.** -/
def pretty (value : Json) : String := String.ofList (prettyChars 0 value)

end Json

end LoadTest
