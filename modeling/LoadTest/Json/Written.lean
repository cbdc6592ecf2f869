/-
**JSON values as they are written.**

Members stand in the order of the text, with repetitions, and numbers and strings are not yet
interpreted. What is read from such a value decides what counts: a reader of a record looks at the
members that it knows, a reader of a table lets the last of equal keys win.

* `Written.ofTokens?`: the value that tokens make, by a machine with a stack of open brackets;
* `Written.parse?`: the value of a text.
-/

import LoadTest.Json.Token

namespace LoadTest.Json

/-- A JSON value as it is written. -/
inductive Written where
  | null
  | bool (value : Bool)
  | number (text : List Char)
  | string (pieces : List Piece)
  | array (items : List Written)
  | object (members : List (List Piece × Written))

namespace Written

/-- An open bracket with what stands in it before the value that is being read, the last first. -/
inductive Frame where
  | array (before : List Written)
  | object (before : List (List Piece × Written)) (key : List Piece)

/-- What may come next, inside the open brackets. -/
inductive State where
  | value (stack : List Frame)
  /-- right behind `[` -/
  | arrayStart (stack : List Frame)
  | afterItem (items : List Written) (stack : List Frame)
  /-- right behind an opening brace -/
  | objectStart (stack : List Frame)
  | key (members : List (List Piece × Written)) (stack : List Frame)
  | colon (members : List (List Piece × Written)) (key : List Piece) (stack : List Frame)
  | afterMember (members : List (List Piece × Written)) (stack : List Frame)
  | done (value : Written)

/-- A value is complete. -/
def complete (value : Written) : List Frame → State
  | [] => .done value
  | .array before :: stack => .afterItem (value :: before) stack
  | .object before key :: stack => .afterMember ((key, value) :: before) stack

/-- A token where a value is expected. -/
def startValue (stack : List Frame) : Token → Option State
  | .null => some (complete .null stack)
  | .bool value => some (complete (.bool value) stack)
  | .number text => some (complete (.number text) stack)
  | .string pieces => some (complete (.string pieces) stack)
  | .openArray => some (.arrayStart stack)
  | .openObject => some (.objectStart stack)
  | _ => none

/-- The state after one more token. -/
def step : State → Token → Option State
  | .value stack, token => startValue stack token
  | .arrayStart stack, .closeArray => some (complete (.array []) stack)
  | .arrayStart stack, token => startValue (.array [] :: stack) token
  | .afterItem items stack, .comma => some (.value (.array items :: stack))
  | .afterItem items stack, .closeArray => some (complete (.array items.reverse) stack)
  | .objectStart stack, .closeObject => some (complete (.object []) stack)
  | .objectStart stack, .string pieces => some (.colon [] pieces stack)
  | .key members stack, .string pieces => some (.colon members pieces stack)
  | .colon members key stack, .colon => some (.value (.object members key :: stack))
  | .afterMember members stack, .comma => some (.key members stack)
  | .afterMember members stack, .closeObject => some (complete (.object members.reverse) stack)
  | _, _ => none

/-- **The value that tokens make**, if they make exactly one. -/
def ofTokens? (tokens : List Token) : Option Written :=
  match tokens.foldlM step (.value []) with
  | some (.done value) => some value
  | _ => none

/-- The value of a text. -/
def parse? (text : String) : Option Written := (Token.scan text.toList).bind ofTokens?

end Written

end LoadTest.Json
