/-
**Hosts.**

The host of a URL is a domain name, an address of four bytes or one of eight 16-bit pieces. A name
whose last label is a number must be an address of four bytes; its parts may be written in base 8,
10 or 16, and the last part fills the bytes that are left.

* `Host.parse` and `Host.parseOpaque`: hosts of schemes with their own rules, and of others;
* `Host.text`: how a host is written.
-/

import LoadTest.Url.Percent
import LoadTest.Url.Domain
import LoadTest.Decimal.Literal

namespace LoadTest

open Text Decimal

/-- Why a text is no URL. -/
inductive UrlFault where
  | emptyHost
  | domain
  | hostCharacter
  | port
  | ipv4
  | ipv6
  | withoutBase
  | opaqueBase
deriving DecidableEq

/-- The wording of the fault. -/
def UrlFault.message : UrlFault → String
  | .emptyHost => "empty host"
  | .domain => "invalid international domain name"
  | .hostCharacter => "invalid domain character"
  | .port => "invalid port number"
  | .ipv4 => "invalid IPv4 address"
  | .ipv6 => "invalid IPv6 address"
  | .withoutBase => "relative URL without a base"
  | .opaqueBase => "relative URL with a cannot-be-a-base base"

/-- The host of a URL. -/
inductive Host where
  | name (text : List Char)
  | ipv4 (address : Nat)
  /-- eight pieces of 16 bits -/
  | ipv6 (pieces : List Nat)
deriving DecidableEq, Inhabited

namespace Host

/-- A part of an address of four bytes: `0x` begins base 16, another `0` base 8. -/
def ipv4Part? (part : List Char) : Option Nat :=
  match part with
  | [] => none
  | '0' :: 'x' :: digits | '0' :: 'X' :: digits => inBase? 16 digits
  | ['0'] => some 0
  | '0' :: digits => inBase? 8 digits
  | digits => inBase? 10 digits

/-- The labels of a name, without an empty one at its end. -/
def labels (name : List Char) : List (List Char) :=
  let all := name.splitOn '.'
  if all.length > 1 ∧ all.getLast? = some [] then all.dropLast else all

/-- Whether the last label of a name is a number. -/
def endsInNumber (name : List Char) : Bool :=
  match (labels name).getLast? with
  | none => false
  | some last => (!last.isEmpty && last.all Char.isDigit) || (ipv4Part? last).isSome

/-- An address of four bytes. -/
def ipv4? (name : List Char) : Option Nat := do
  let parts ← (labels name).mapM ipv4Part?
  let last ← parts.getLast?
  let firsts := parts.dropLast
  if 4 < parts.length ∨ firsts.any (255 < ·) ∨ Nat.pow 256 (4 - firsts.length) ≤ last then none
  else some (firsts.zipIdx.foldl (fun sum (byte, i) => sum + byte * Nat.pow 256 (3 - i)) last)

/-- Four bytes in decimal digits, as two pieces of 16 bits. -/
def dotted? (text : List Char) : Option (List Nat) := do
  let bytes ← (text.splitOn '.').mapM fun part =>
    if part.isEmpty ∨ !part.all Char.isDigit ∨ (1 < part.length ∧ part.head? = some '0') then none
    else if 255 < digitsValue part then none
    else some (digitsValue part)
  match bytes with
  | [a, b, c, d] => some [256 * a + b, 256 * c + d]
  | _ => none

/-- A piece of one to four hexadecimal digits. -/
def piece? (text : List Char) : Option Nat :=
  if text.isEmpty ∨ 4 < text.length then none else inBase? 16 text

/-- Pieces with colons between them; four bytes may take the place of the last two. -/
def pieces? (text : List Char) : Option (List Nat) :=
  if text.isEmpty then some []
  else
    let parts := text.splitOn ':'
    match parts.getLast? with
    | none => none
    | some last => do
      let firsts ← parts.dropLast.mapM piece?
      if last.contains '.' then some (firsts ++ (← dotted? last))
      else some (firsts ++ [← piece? last])

/-- The parts before and after the first two colons in a row. -/
def splitGap : List Char → Option (List Char × List Char)
  | ':' :: ':' :: rest => some ([], rest)
  | c :: rest => (splitGap rest).map fun (before, after) => (c :: before, after)
  | [] => none

/-- An address of eight pieces; two colons stand for at least one piece of zero. -/
def ipv6? (text : List Char) : Option (List Nat) :=
  match splitGap text with
  | none => do
    let pieces ← pieces? text
    if pieces.length = 8 then some pieces else none
  | some (before, after) => do
    if before.contains '.' then none
    let firsts ← pieces? before
    let lasts ← pieces? after
    if firsts.length + lasts.length < 8 then
      some (firsts ++ List.replicate (8 - firsts.length - lasts.length) 0 ++ lasts)
    else none

/-- An address between brackets. -/
def bracketed (text : List Char) : Except UrlFault Host :=
  match (dropTail? [']'] text).bind ipv6? with
  | some pieces => .ok (ipv6 pieces)
  | none => .error .ipv6

/-- **A host of a scheme with its own rules.** -/
def parse (text : List Char) : Except UrlFault Host :=
  match text with
  | '[' :: rest => bracketed rest
  | _ =>
    match (Percent.text? (Percent.decode text)).bind fun name => Domain.toAscii? name.toList with
    | none => .error .domain
    | some ascii =>
      if ascii.isEmpty then .error .emptyHost
      else if endsInNumber ascii then
        match ipv4? ascii with
        | some address => .ok (ipv4 address)
        | none => .error .ipv4
      else .ok (name ascii)

/-- Characters that no host may hold. -/
def isForbidden (c : Char) : Bool :=
  ['\x00', '\t', '\n', '\r', ' ', '#', '/', ':', '<', '>', '?', '@', '[', '\\', ']', '^',
    '|'].contains c

/-- **A host of any other scheme**, which may be empty. -/
def parseOpaque (text : List Char) : Except UrlFault Host :=
  match text with
  | '[' :: rest => bracketed rest
  | _ =>
    if text.any isForbidden then .error .hostCharacter
    else .ok (name (Percent.encode Percent.controlSet text))

/-- The longest run of zeros among pieces from some place on, as its place and length. -/
def longestZeros (place : Nat) : List Nat → Nat × Nat
  | [] => (place, 0)
  | piece :: rest =>
    let here := (piece :: rest).takeWhile (· = 0)
    let later := longestZeros (place + 1) rest
    if later.2 ≤ here.length then (place, here.length) else later

/-- Pieces in hexadecimal digits with colons between them. -/
def piecesText (pieces : List Nat) : List Char :=
  [':'].intercalate (pieces.map (Nat.toDigits 16))

/-- How a host is written: two colons stand for the first of the longest runs of zeros. -/
def text : Host → List Char
  | name text => text
  | ipv4 address =>
    ['.'].intercalate ([3, 2, 1, 0].map fun i => Nat.toDigits 10 (address / Nat.pow 256 i % 256))
  | ipv6 pieces =>
    let (place, length) := longestZeros 0 pieces
    if length < 2 then '[' :: piecesText pieces ++ [']']
    else
      '[' :: piecesText (pieces.take place) ++ ':' :: ':' :: piecesText (pieces.drop (place + length))
        ++ [']']

end Host

end LoadTest
