/-
**The words of a JSON text.**

A JSON text is a sequence of marks, the words `null`, `true` and `false`, numbers and quoted
strings, with blanks between them. A number is kept as it is written, and a string as the
characters and 16-bit units of its escapes, so that nothing is decided here about their meaning.

* `Token.scan`: the tokens of a text, as a fold over its characters;
* `Token.readable`: the tokens up to the first fault;
* `Token.text`: how a token is written;
* `Piece.decode`: the characters that the pieces of a string stand for.
-/

import LoadTest.Decimal.Literal
import LoadTest.Text.Base

namespace LoadTest.Json

/-- A piece of a quoted string: a character, or an escape by its 16-bit unit. -/
inductive Piece where
  | char (c : Char)
  | unit (code : Nat)
deriving DecidableEq

namespace Piece

/-- Whether a unit is the first half of a character beyond 16 bits. -/
def isHigh (code : Nat) : Bool := 0xD800 ≤ code && code < 0xDC00

/-- Whether a unit is the second half of a character beyond 16 bits. -/
def isLow (code : Nat) : Bool := 0xDC00 ≤ code && code < 0xE000

/-- The characters that the pieces stand for; a half without its other half stands for none. -/
def decode : List Piece → Option (List Char)
  | [] => some []
  | char c :: rest => (decode rest).map (c :: ·)
  | unit high :: unit low :: rest =>
    if isHigh high then
      if isLow low then
        (decode rest).map (Char.ofNat (0x10000 + (high - 0xD800) * 0x400 + (low - 0xDC00)) :: ·)
      else none
    else if isLow high then none
    else (decode (unit low :: rest)).map (Char.ofNat high :: ·)
  | unit code :: rest =>
    if isHigh code || isLow code then none else (decode rest).map (Char.ofNat code :: ·)

end Piece

/-- A word or mark of a JSON text. -/
inductive Token where
  | openObject
  | closeObject
  | openArray
  | closeArray
  | comma
  | colon
  | null
  | bool (value : Bool)
  | number (text : List Char)
  | string (pieces : List Piece)
deriving DecidableEq

/-- Where a number stands: an optional minus sign, digits without a leading zero, then a fraction
and an exponent if any, each with a digit at least. -/
inductive NumberPart where
  /-- behind the minus sign -/
  | sign
  /-- behind a zero that is the first digit -/
  | zero
  | whole
  /-- right behind the point -/
  | point
  | fraction
  /-- right behind the letter of the exponent -/
  | letter
  /-- behind the sign of the exponent -/
  | letterSign
  | exponent
deriving DecidableEq

namespace NumberPart

/-- Where a number may begin. -/
def first? (c : Char) : Option NumberPart :=
  if c = '-' then some sign else if c = '0' then some zero else if c.isDigit then some whole else none

/-- Where a number stands after one more character, if that belongs to it. -/
def next? (part : NumberPart) (c : Char) : Option NumberPart :=
  let isLetter := c = 'e' || c = 'E'
  match part with
  | sign => if c = '-' then none else first? c
  | zero => if c = '.' then some point else if isLetter then some letter else none
  | whole =>
    if c.isDigit then some whole else if c = '.' then some point
    else if isLetter then some letter else none
  | point => if c.isDigit then some fraction else none
  | fraction => if c.isDigit then some fraction else if isLetter then some letter else none
  | letter =>
    if c = '+' || c = '-' then some letterSign else if c.isDigit then some exponent else none
  | letterSign | exponent => if c.isDigit then some exponent else none

/-- Whether a number may end where it stands. -/
def isEnd : NumberPart → Bool
  | zero | whole | fraction | exponent => true
  | _ => false

/-- Whether a number ends before a character; a digit behind a leading zero is a fault. -/
def endsBefore (part : NumberPart) (c : Char) : Bool :=
  part.isEnd && !(part = zero && c.isDigit)

end NumberPart

namespace Token

/-- Where the scan stands between two characters. -/
inductive Mode where
  | between
  /-- in a word, its last letter first -/
  | word (letters : List Char)
  /-- in a number, its last character first -/
  | number (part : NumberPart) (text : List Char)
  /-- between the quotes, the last piece first -/
  | quoted (pieces : List Piece)
  /-- behind a backslash -/
  | escape (pieces : List Piece)
  /-- in the digits of an escape by number -/
  | unit (pieces : List Piece) (count : Nat) (code : Nat)

/-- The tokens so far, the last one first, and the mode. -/
structure Scan where
  tokens : List Token
  mode : Mode

/-- Blanks between tokens. -/
def isSpace (c : Char) : Bool := c = ' ' || c = '\t' || c = '\n' || c = '\r'

/-- The mark that a character is. -/
def mark? : Char → Option Token
  | '\x7b' => some openObject
  | '\x7d' => some closeObject
  | '[' => some openArray
  | ']' => some closeArray
  | ',' => some comma
  | ':' => some colon
  | _ => none

/-- The word that letters make. -/
def word? (letters : List Char) : Option Token :=
  if letters = ['n', 'u', 'l', 'l'] then some null
  else if letters = ['t', 'r', 'u', 'e'] then some (bool true)
  else if letters = ['f', 'a', 'l', 's', 'e'] then some (bool false)
  else none

/-- The character that a letter stands for behind a backslash. -/
def escaped? : Char → Option Char
  | '"' => some '"'
  | '\\' => some '\\'
  | '/' => some '/'
  | 'b' => some '\x08'
  | 'f' => some '\x0c'
  | 'n' => some '\n'
  | 'r' => some '\r'
  | 't' => some '\t'
  | _ => none

/-- A character between tokens begins one, is one, or is a blank. -/
def begin (tokens : List Token) (c : Char) : Option Scan :=
  if isSpace c then some ⟨tokens, .between⟩
  else if c = '"' then some ⟨tokens, .quoted []⟩
  else if c.isLower then some ⟨tokens, .word [c]⟩
  else
    match NumberPart.first? c with
    | some part => some ⟨tokens, .number part [c]⟩
    | none => (mark? c).map fun token => ⟨token :: tokens, .between⟩

/-- The scan after one more character. A word ends with its last letter, and a number where it
cannot go on. -/
def step (scan : Scan) (c : Char) : Option Scan :=
  match scan.mode with
  | .between => begin scan.tokens c
  | .word letters =>
    match word? (c :: letters).reverse with
    | some token => some ⟨token :: scan.tokens, .between⟩
    | none => if c.isLower then some { scan with mode := .word (c :: letters) } else none
  | .number part text =>
    match part.next? c with
    | some next => some { scan with mode := .number next (c :: text) }
    | none => if part.endsBefore c then begin (number text.reverse :: scan.tokens) c else none
  | .quoted pieces =>
    if c = '"' then some ⟨.string pieces.reverse :: scan.tokens, .between⟩
    else if c = '\\' then some { scan with mode := .escape pieces }
    else if c.toNat < 0x20 then none
    else some { scan with mode := .quoted (.char c :: pieces) }
  | .escape pieces =>
    if c = 'u' then some { scan with mode := .unit pieces 0 0 }
    else (escaped? c).map fun e => { scan with mode := .quoted (.char e :: pieces) }
  | .unit pieces count code =>
    (Text.hexDigit? c).map fun digit =>
      let code := 16 * code + digit
      if count = 3 then { scan with mode := .quoted (.unit code :: pieces) }
      else { scan with mode := .unit pieces (count + 1) code }

/-- The end of the text ends a number. -/
def finish (scan : Scan) : Option (List Token) :=
  match scan.mode with
  | .between => some scan.tokens.reverse
  | .number part text =>
    if part.isEnd then some (number text.reverse :: scan.tokens).reverse else none
  | _ => none

/-- **The tokens of a text**, if it is made of tokens. -/
def scan (text : List Char) : Option (List Token) :=
  (text.foldlM step ⟨[], .between⟩).bind finish

/-- The tokens before a character, the last one first; a number may end there. -/
def tokensBefore (scan : Scan) (c : Char) : List Token :=
  match scan.mode with
  | .number part text => if part.endsBefore c then number text.reverse :: scan.tokens else scan.tokens
  | _ => scan.tokens

/-- The tokens from some point on up to the first fault. -/
def readableFrom (scan : Scan) : List Char → List Token
  | [] => (finish scan).getD scan.tokens.reverse
  | c :: rest =>
    match step scan c with
    | some next => readableFrom next rest
    | none => (tokensBefore scan c).reverse

/-- The tokens of a text up to the first fault. -/
def readable (text : List Char) : List Token := readableFrom ⟨[], .between⟩ text

/-- How a character is written between quotes. -/
def escapeChar (c : Char) : List Char :=
  match c with
  | '"' => ['\\', '"']
  | '\\' => ['\\', '\\']
  | '\x08' => ['\\', 'b']
  | '\x0c' => ['\\', 'f']
  | '\n' => ['\\', 'n']
  | '\r' => ['\\', 'r']
  | '\t' => ['\\', 't']
  | c =>
    if c.toNat < 0x20 then
      ['\\', 'u', '0', '0'] ++ Nat.toDigits 16 (c.toNat / 16) ++ Nat.toDigits 16 (c.toNat % 16)
    else [c]

/-- How a piece is written; escapes by number do not occur in what is written. -/
def pieceText : Piece → List Char
  | .char c => escapeChar c
  | .unit code => ['\\', 'u'] ++
      ([code / 0x1000, code / 0x100 % 16, code / 0x10 % 16, code % 16].flatMap (Nat.toDigits 16))

/-- How a token is written. -/
def text : Token → List Char
  | openObject => ['\x7b']
  | closeObject => ['\x7d']
  | openArray => ['[']
  | closeArray => [']']
  | comma => [',']
  | colon => [':']
  | null => ['n', 'u', 'l', 'l']
  | bool true => ['t', 'r', 'u', 'e']
  | bool false => ['f', 'a', 'l', 's', 'e']
  | number text => text
  | string pieces => '"' :: pieces.flatMap pieceText ++ ['"']

end Token

end LoadTest.Json
