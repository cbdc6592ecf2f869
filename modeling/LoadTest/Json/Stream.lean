/-
**Reading JSON as it comes in.**

A stream reader takes the tokens of a text one by one and stops at the first fault: either the text
is no JSON up to there, or it is, and what stands there is not what is asked for. Which of the two
comes first decides, and what stands behind the value is not looked at.

* `Fault`: the two kinds of faults;
* `Stream.list` and `Stream.record`: lists, and records whose members are read in any order;
* `Stream.read`: a text read by a stream reader.
-/

import LoadTest.Json.Reader

namespace LoadTest.Json

/-- Why a text is not read. -/
inductive Fault where
  /-- it is no JSON -/
  | malformed
  /-- it is JSON of another shape -/
  | misfit
deriving DecidableEq

/-- What a reader of tokens gives, with the tokens that are left. -/
abbrev Stream (β : Type) := List Token → Except Fault (β × List Token)

namespace Stream

variable {β δ : Type}

/-- The fault where a token begins no value of the shape that is asked for. A number or a text that
has no meaning is no JSON. -/
def misfit : List Token → Fault
  | .null :: _ | .bool _ :: _ | .openArray :: _ | .openObject :: _ => .misfit
  | .number text :: _ => if (numberOf? text).isSome then .misfit else .malformed
  | .string pieces :: _ => if (decodeString pieces).isSome then .misfit else .malformed
  | _ => .malformed

/-- A text. -/
def string : Stream String
  | .string pieces :: rest =>
    match decodeString pieces with
    | some text => .ok (text, rest)
    | none => .error .malformed
  | tokens => .error (misfit tokens)

/-- Any number, as a float. -/
def float : Stream Float
  | .number text :: rest =>
    match numberOf? text with
    | some value => .ok (value.toFloat, rest)
    | none => .error .malformed
  | tokens => .error (misfit tokens)

/-- A whole number between two limits. -/
def int (least most : Int) : Stream Int
  | .number text :: rest =>
    match numberOf? text with
    | none => .error .malformed
    | some (.natural value) => within value rest
    | some (.negative value) => within (-value) rest
    | some (.float _) => .error .misfit
  | tokens => .error (misfit tokens)
where
  within (value : Int) (rest : List Token) : Except Fault (Int × List Token) :=
    if least ≤ value ∧ value ≤ most then .ok (value, rest) else .error .misfit

/-- A value that does not matter, from some state on. -/
def skipFrom : Written.State → Stream Unit
  | .done _, tokens => .ok ((), tokens)
  | _, [] => .error .malformed
  | state, token :: rest =>
    match Written.step state token with
    | some next => skipFrom next rest
    | none => .error .malformed

/-- A value that does not matter. -/
def skip : Stream Unit := skipFrom (.value [])

/-- Items up to the closing bracket, at most so many. -/
def items (read : Stream β) : Nat → Stream (List β)
  | 0, _ => .error .malformed
  | most + 1, tokens => do
    let (item, tokens) ← read tokens
    match tokens with
    | .closeArray :: rest => .ok ([item], rest)
    | .comma :: rest =>
      let (more, rest) ← items read most rest
      .ok (item :: more, rest)
    | _ => .error .malformed

/-- A list of values. -/
def list (read : Stream β) : Stream (List β)
  | .openArray :: .closeArray :: rest => .ok ([], rest)
  | .openArray :: rest => items read rest.length rest
  | tokens => .error (misfit tokens)

/-- A field of a record: its name, whether it was read already, and how it is read. -/
structure Field (δ : Type) where
  name : String
  isRead : δ → Bool
  read : δ → Stream δ

/-- A member behind its key. -/
def member (fields : List (Field δ)) (key : String) (draft : δ) (tokens : List Token) :
    Except Fault (δ × List Token) :=
  let field? := fields.find? fun field => field.name = key
  if field?.any fun field => field.isRead draft then .error .misfit
  else
    match tokens with
    | .colon :: rest =>
      match field? with
      | some field => field.read draft rest
      | none => do
        let ((), rest) ← skip rest
        .ok (draft, rest)
    | _ => .error .malformed

/-- Members up to the closing brace, at most so many. -/
def members (fields : List (Field δ)) : Nat → δ → Stream δ
  | 0, _, _ => .error .malformed
  | most + 1, draft, .string pieces :: rest =>
    match decodeString pieces with
    | none => .error .malformed
    | some key => do
      let (draft, tokens) ← member fields key draft rest
      match tokens with
      | .closeObject :: rest => .ok (draft, rest)
      | .comma :: rest => members fields most draft rest
      | _ => .error .malformed
  | _, _, _ => .error .malformed

/-- All fields in their order, behind the first one. -/
def positions : List (Field δ) → δ → Stream δ
  | [], draft, .closeArray :: rest => .ok (draft, rest)
  | [], _, _ => .error .malformed
  | _ :: _, _, .closeArray :: _ => .error .misfit
  | field :: more, draft, .comma :: rest => do
    let (draft, tokens) ← field.read draft rest
    positions more draft tokens
  | _, _, _ => .error .malformed

/-- **A record**, as an object with members in any order or as an array of its fields. Members that
it does not know are skipped; one that is given twice or is missing is a misfit. -/
def record (fields : List (Field δ)) (fresh : δ) (finish : δ → Option β) : Stream β := fun tokens =>
  let drafted : Except Fault (δ × List Token) := match tokens, fields with
    | .openObject :: .closeObject :: rest, _ => .ok (fresh, rest)
    | .openObject :: rest, _ => members fields rest.length fresh rest
    | .openArray :: .closeArray :: _, _ :: _ => .error .misfit
    | .openArray :: rest, field :: more => do
      let (draft, rest) ← field.read fresh rest
      positions more draft rest
    | tokens, _ => .error (misfit tokens)
  match drafted with
  | .error fault => .error fault
  | .ok (draft, rest) =>
    match finish draft with
    | some value => .ok (value, rest)
    | none => .error .misfit

/-- **A text read by a stream reader.** -/
def read (reader : Stream β) (text : String) : Except Fault β :=
  (reader (Token.readable text.toList)).map Prod.fst

end Stream

end LoadTest.Json
