/-
**The direction of a name.**

A name that holds a character written from right to left must not be shown in a misleading order.
So each of its labels is written in one direction: it begins with a letter, ends with a letter or a
digit, marks aside, and holds no letter of the other direction. From right to left, digits of one
kind only may stand.

* `Domain.direction`: the direction of a character, after Unicode 17;
* `Domain.isOrdered`: whether a label keeps the rules;
* `Domain.areOrdered`: whether all labels do, if one of them needs to.
-/

import LoadTest.Text.Marks

namespace LoadTest.Domain

open Text

/-- How a character is written among others. -/
inductive Direction where
  /-- a letter from left to right -/
  | left
  /-- a letter from right to left -/
  | right
  /-- a digit of the European numbers -/
  | european
  /-- a digit of the Arabic numbers -/
  | arabic
  /-- a mark of the character before it -/
  | mark
  /-- anything else -/
  | neutral
deriving DecidableEq

/-- The letters that are written from right to left. The ranges of this table and of the next ones
run over characters that no name holds. -/
def rightToLeft : PointTable := .ofText
  "5BE 5C0 5C3 5C6 5D0-5F4 608 60B 60D 61B-64A 66D-66F 671-6D5 6E5-6E6 6EE-6EF 6FA-710 712-72F
    74D-7A5 7B1-7EA 7F4-7F5 7FA 7FE-815 81A 824 828 830-858 85E-88F 8A0-8C9 FBB2-FBC2 FE73
    10800-1091B 10920-10A00 10A10-10A35 10A40-10AE4 10AEB-10B35 10B40-10D23 10D40-10D4F
    10D6F-10D8F 10E80-10EA9 10EAD-10EC7 10F00-10F45 10F51-10F81 10F86-10FF6 1E800-1E8CF
    1E922-1E943 1E94B-1ED3D"

/-- The Arabic numbers. -/
def arabicNumbers : PointTable := .ofText
  "660-669 66B-66C 10D30-10D39 10E60-10E7E"

/-- The European numbers beyond ASCII. -/
def europeanNumbers : PointTable := .ofText
  "6F0-6F9 102E1-102FB"

/-- Signs, symbols and punctuation beyond ASCII. -/
def neutrals : PointTable := .ofText
  "A1-D7 F7 2B9-2BA 2C2-2CF 2D2-2ED 2EF-2FF 375 3F6 58A-58F 606-607 609-60A 60C 60E-60F 66A 6DE
    6E9 7F6-7F9 9F2-9F3 9FB AF1 BF3-BFA C78-C7E E3F F3A-F3D 1390-1399 1400 169B-169C 17DB
    17F0-180A 1940-1945 19DE-19FF 200C-20C1 2104-214D 218A-2335 237B-2394 2396-26AB 26AD-27FF
    2900-2BFF 2CE5-2CEA 2CF9-2CFF 2E00-3004 3008-3020 3030 3037 303D-303F 30A0 30FB 31C0-31E5
    4DC0-4DFF A490-A4C6 A60D-A60F A673 A67E-A67F A700-A721 A788 A828-A82B A838-A839 A874-A877
    AB6A-AB6B FBC3-FDFF FE45-FE46 10101 10140-1018C 10190-101A0 1091F 10B39-10B3F 10D6E
    10ED0-10ED8 11052-11065 11660-1166C 11FD5-11FF1 16FE2 1CC00-1CEF0 1D1E9-1D241 1D245
    1D300-1D356 1E2FF 1EEF0-1F12F 1F16D-1F16F 1F1AD 1F260-1FBFA"

/-- The marks without room that are written from left to right all the same. -/
def leftMarks : PointTable := .ofText "CBF CC6 11A07 11A08 11C3F"

/-- The direction of a character that counts as itself. -/
def direction (c : Char) : Direction :=
  let point := c.toNat
  if point < 0x80 then
    if c.isAlpha then .left else if c.isDigit then .european else .neutral
  else if rightToLeft.contains point then .right
  else if arabicNumbers.contains point then .arabic
  else if europeanNumbers.contains point then .european
  else if neutrals.contains point then .neutral
  else if isNonspacing c && !leftMarks.contains point then .mark
  else .left

/-- Whether a direction makes a name one whose labels must be ordered. -/
def Direction.turns : Direction → Bool
  | .right | .arabic => true
  | _ => false

/-- Whether a label may hold a direction between its ends. -/
def Direction.fits (start direction : Direction) : Bool :=
  match direction with
  | .european | .neutral | .mark => true
  | .arabic => start = .right
  | .left | .right => direction = start

/-- Whether a label may end with a direction. -/
def Direction.ends (start direction : Direction) : Bool :=
  match direction with
  | .european => true
  | .neutral | .mark => false
  | .arabic => start = .right
  | .left | .right => direction = start

/-- Whether the directions of a label keep the rules; there is nothing to keep without any. -/
def areInOrder (directions : List Direction) : Bool :=
  match (directions.reverse.dropWhile (· = .mark)).reverse with
  | [] => directions.isEmpty
  | start :: rest =>
    (start = .left || start = .right) && rest.all start.fits
      && start.ends ((start :: rest).getLastD start)
      && !(start = .right && rest.contains .european && rest.contains .arabic)

/-- **Whether a label keeps the rules.** -/
def isOrdered (label : List Char) : Bool := areInOrder (label.map direction)

/-- **Whether all labels keep the rules**, or none holds a character from right to left. -/
def areOrdered (labels : List (List Char)) : Bool :=
  !(labels.any fun label => label.any fun c => (direction c).turns) || labels.all isOrdered

end LoadTest.Domain
