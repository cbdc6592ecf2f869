/-
**What is written as tokens is a value as it is written.**

The tokens of a JSON value open and close their brackets in pairs, so the machine that reads tokens
comes back to the bracket that was open before, with the value in it. Most control characters are
written by their number and come back as such; they still stand for themselves.

* `Json.inductOn`: induction over a value and all that stands in it;
* `Json.written`: a value as it stands in its own text;
* `Json.decodeString_pieces`: a text comes back from its pieces;
* `Json.foldlM_tokens`, `Json.ofTokens?_tokens`: the tokens of a value make it as it is written.
-/

import LoadTest.Json.Reader
import LoadTest.Json.Writer

namespace LoadTest

namespace Json

/-! ### Induction -/

/-- **Induction over a value**: what holds of an array if it holds of its items, and of an object if
it holds of its members, holds of every value if it holds of those without parts. -/
@[elab_as_elim]
theorem inductOn {motive : Json → Prop} (value : Json) (null : motive .null)
    (bool : ∀ value, motive (.bool value)) (number : ∀ value, motive (.number value))
    (string : ∀ text, motive (.string text))
    (array : ∀ items, (∀ item ∈ items, motive item) → motive (.array items))
    (object : ∀ members, (∀ member ∈ members, motive member.2) → motive (.object members)) :
    motive value := by
  refine Json.rec (motive_2 := fun items => ∀ item ∈ items, motive item)
    (motive_3 := fun members => ∀ member ∈ members, motive member.2)
    (motive_4 := fun member => motive member.2) null bool number string array object ?_ ?_ ?_ ?_ ?_
    value
  · exact fun _ member => absurd member List.not_mem_nil
  · exact fun _ _ first rest => List.forall_mem_cons.2 ⟨first, rest⟩
  · exact fun _ member => absurd member List.not_mem_nil
  · exact fun _ _ first rest => List.forall_mem_cons.2 ⟨first, rest⟩
  · exact fun _ _ own => own

/-! ### Strings -/

/-- The control characters that have an escape of their own. -/
def shortEscapes : List Char := ['\x08', '\x0c', '\n', '\r', '\t']

/-- A piece as it is read where this one was written. -/
def Piece.again : Piece → Piece
  | .char c => if c.toNat < 0x20 ∧ c ∉ shortEscapes then .unit c.toNat else .char c
  | .unit code => .unit code

/-- A token as it is read where this one was written. -/
def Token.again : Token → Token
  | .string pieces => .string (pieces.map Piece.again)
  | token => token

/-- The pieces that are read where a text was written. -/
def pieces (text : String) : List Piece := (text.toList.map .char).map Piece.again

theorem again_char (c : Char) : Piece.again (.char c) =
    if c.toNat < 0x20 ∧ c ∉ shortEscapes then .unit c.toNat else .char c := rfl

/-- The unit of a character that is no half of a character stands for it. -/
theorem decode_unit {c : Char} (small : c.toNat < 0xD800) (rest : List Piece) :
    Piece.decode (.unit c.toNat :: rest) = (Piece.decode rest).map (c :: ·) := by
  have notHigh : Piece.isHigh c.toNat = false := by
    unfold Piece.isHigh
    simp only [Bool.and_eq_false_iff, decide_eq_false_iff_not]
    omega
  have notLow : Piece.isLow c.toNat = false := by
    unfold Piece.isLow
    simp only [Bool.and_eq_false_iff, decide_eq_false_iff_not]
    omega
  cases rest with
  | nil => simp [Piece.decode, notHigh, notLow]
  | cons piece more =>
    cases piece with
    | char other => simp [Piece.decode, notHigh, notLow]
    | unit low =>
      rw [Piece.decode]
      simp [notHigh, notLow]

/-- **A text comes back from its pieces.** -/
@[simp] theorem decodeString_pieces (text : String) : decodeString (pieces text) = some text := by
  have all : ∀ chars : List Char,
      Piece.decode ((chars.map .char).map Piece.again) = some chars := by
    intro chars
    induction chars with
    | nil => rfl
    | cons c rest ih =>
      rw [List.map_cons, List.map_cons, again_char]
      split
      · rename_i control
        rw [decode_unit (by omega), ih]
        rfl
      · rw [Piece.decode, ih]
        rfl
  unfold decodeString pieces
  rw [all, Option.map_some, String.ofList_toList]

/-! ### Values -/

end Json

/-- The number as it stands in its own text. -/
def Number.written (number : Number) : Json.Written :=
  match number.token with
  | .number text => .number text
  | _ => .null

namespace Json

mutual

/-- **The value as it stands in its own text.** -/
def written : Json → Written
  | null => .null
  | bool value => .bool value
  | number value => value.written
  | string text => .string (pieces text)
  | array items => .array (writtenItems items)
  | object members => .object (writtenMembers members)

/-- The items of an array as they stand in its text. -/
def writtenItems : List Json → List Written
  | [] => []
  | item :: rest => written item :: writtenItems rest

/-- The members of an object as they stand in its text. -/
def writtenMembers : List (String × Json) → List (List Piece × Written)
  | [] => []
  | (key, value) :: rest => (pieces key, written value) :: writtenMembers rest

end

@[simp] theorem writtenItems_eq (items : List Json) : writtenItems items = items.map written := by
  induction items with
  | nil => rfl
  | cons item rest ih => simp [writtenItems, ih]

@[simp] theorem writtenMembers_eq (members : List (String × Json)) :
    writtenMembers members = members.map fun member => (pieces member.1, member.2.written) := by
  induction members with
  | nil => rfl
  | cons member rest ih => simp [writtenMembers, ih]

/-! ### Tokens -/

section Tokens

open Written

/-- A number is one token, and no bracket. -/
theorem token_cases (number : Number) :
    number.token = .null ∨ ∃ text, number.token = .number text := by
  cases number with
  | natural | negative => exact .inr ⟨_, rfl⟩
  | float value =>
    rw [Number.token]
    split
    · exact .inr ⟨_, rfl⟩
    · exact .inl rfl

/-- No value begins with a closing bracket. -/
theorem exists_first (value : Json) :
    ∃ first more, value.tokens = first :: more ∧ first.again ≠ .closeArray := by
  cases value with
  | null | bool | string | array | object => exact ⟨_, _, rfl, by simp [Token.again, stringToken]⟩
  | number value =>
    refine ⟨_, _, rfl, ?_⟩
    rcases token_cases value with none | ⟨text, some⟩
    · rw [none]
      simp [Token.again]
    · rw [some]
      simp [Token.again]

/-- The tokens of a value, as they are read, complete it. -/
def Completes (value : Json) : Prop := ∀ (rest : List Token) (stack : List Frame),
  (value.tokens.map Token.again ++ rest).foldlM step (.value stack) =
    rest.foldlM step (complete value.written stack)

/-- Items up to the closing bracket complete an array. -/
theorem foldlM_items {item : Json} {more : List Json}
    (each : ∀ value ∈ item :: more, Completes value)
    (before : List Written) (rest : List Token) (stack : List Frame) :
    ((itemTokens (item :: more)).map Token.again ++ .closeArray :: rest).foldlM step
        (.value (.array before :: stack)) =
      rest.foldlM step
        (complete (.array (before.reverse ++ (item :: more).map written)) stack) := by
  induction more generalizing item before with
  | nil =>
    rw [itemTokens, each item List.mem_cons_self, List.foldlM_cons]
    simp [complete, step]
  | cons other others ih =>
    have later : ∀ value ∈ other :: others, Completes value :=
      fun value member => each value (List.mem_cons_of_mem _ member)
    have comma : itemTokens (item :: other :: others) =
        item.tokens ++ .comma :: itemTokens (other :: others) := rfl
    rw [comma, List.map_append, List.append_assoc, each item List.mem_cons_self, List.map_cons,
      List.cons_append, List.foldlM_cons]
    show ((itemTokens (other :: others)).map Token.again ++ .closeArray :: rest).foldlM step
      (.value (.array (item.written :: before) :: stack)) = _
    rw [ih later]
    simp

/-- Members up to the closing brace complete an object. -/
theorem foldlM_members {member : String × Json} {more : List (String × Json)}
    (each : ∀ own ∈ member :: more, Completes own.2) (before : List (List Piece × Written))
    (rest : List Token) (stack : List Frame) :
    ((memberTokens (member :: more)).map Token.again ++ .closeObject :: rest).foldlM step
        (.key before stack) =
      rest.foldlM step
        (complete (.object (before.reverse ++ writtenMembers (member :: more))) stack) := by
  induction more generalizing member before with
  | nil =>
    have tokens : (memberTokens [member]).map Token.again =
        .string (pieces member.1) :: .colon :: member.2.tokens.map Token.again := rfl
    rw [tokens, List.cons_append, List.cons_append, List.foldlM_cons]
    show (member.2.tokens.map Token.again ++ .closeObject :: rest).foldlM step
      (.value (.object before (pieces member.1) :: stack)) = _
    rw [each member List.mem_cons_self, List.foldlM_cons]
    simp [complete, step]
  | cons other others ih =>
    have later : ∀ own ∈ other :: others, Completes own.2 :=
      fun own inside => each own (List.mem_cons_of_mem _ inside)
    have tokens : (memberTokens (member :: other :: others)).map Token.again =
        .string (pieces member.1) :: .colon :: (member.2.tokens.map Token.again ++
          .comma :: (memberTokens (other :: others)).map Token.again) := by
      simp [memberTokens, Token.again]
      rfl
    rw [tokens, List.cons_append, List.cons_append, List.foldlM_cons, List.append_assoc]
    show (member.2.tokens.map Token.again ++ (.comma ::
      (memberTokens (other :: others)).map Token.again ++ .closeObject :: rest)).foldlM step
        (.value (.object before (pieces member.1) :: stack)) = _
    rw [each member List.mem_cons_self, List.cons_append, List.foldlM_cons]
    show ((memberTokens (other :: others)).map Token.again ++ .closeObject :: rest).foldlM step
      (.key ((pieces member.1, member.2.written) :: before) stack) = _
    rw [ih later]
    simp

/-- A value right behind an opening bracket is the first item. -/
theorem foldlM_arrayStart {first : Token} (value : first ≠ .closeArray) (more : List Token)
    (stack : List Frame) : (first :: more).foldlM step (.arrayStart stack) =
      (first :: more).foldlM step (.value (.array [] :: stack)) := by
  cases first with
  | closeArray => contradiction
  | _ => rfl

/-- **The tokens of a value complete it**, whatever brackets are open around it. -/
theorem foldlM_tokens (value : Json) : Completes value := by
  induction value using inductOn with
  | null | bool | string => exact fun rest stack => rfl
  | number value =>
    intro rest stack
    rcases token_cases value with none | ⟨text, some⟩
    · simp [tokens, written, Number.written, none, Token.again, step, startValue]
    · simp [tokens, written, Number.written, some, Token.again, step, startValue]
  | array items ih =>
    intro rest stack
    cases items with
    | nil => rfl
    | cons item more =>
      obtain ⟨first, others, split, value⟩ : ∃ first others,
          (itemTokens (item :: more)).map Token.again ++ .closeArray :: rest = first :: others ∧
            first ≠ .closeArray := by
        obtain ⟨first, others, split, other⟩ := item.exists_first
        cases more with
        | nil => exact ⟨first.again, _, by rw [itemTokens, split]; rfl, other⟩
        | cons next others =>
          have tokens : itemTokens (item :: next :: others) =
              item.tokens ++ .comma :: itemTokens (next :: others) := rfl
          exact ⟨first.again, _, by rw [tokens, split]; rfl, other⟩
      have shape : (Json.array (item :: more)).tokens.map Token.again ++ rest =
          .openArray :: ((itemTokens (item :: more)).map Token.again ++ .closeArray :: rest) := by
        simp [tokens, Token.again]
      rw [shape, List.foldlM_cons]
      show (_ ++ _ :: _).foldlM step (.arrayStart stack) = _
      rw [split, foldlM_arrayStart value, ← split, foldlM_items ih]
      simp [written]
  | object members ih =>
    intro rest stack
    cases members with
    | nil => rfl
    | cons member more =>
      have shape : (Json.object (member :: more)).tokens.map Token.again ++ rest =
          .openObject :: ((memberTokens (member :: more)).map Token.again ++
            .closeObject :: rest) := by
        simp [tokens, Token.again]
      obtain ⟨others, split⟩ : ∃ others,
          (memberTokens (member :: more)).map Token.again ++ .closeObject :: rest =
            .string (pieces member.1) :: others := by
        cases more with
        | nil => exact ⟨_, rfl⟩
        | cons => exact ⟨_, rfl⟩
      have members := foldlM_members ih [] rest stack
      rw [split] at members
      rw [shape, List.foldlM_cons]
      show (_ ++ _ :: _).foldlM step (.objectStart stack) = _
      rw [split]
      exact members

/-- **The tokens of a value make it as it is written.** -/
theorem ofTokens?_tokens (value : Json) :
    ofTokens? (value.tokens.map Token.again) = some value.written := by
  have whole := value.foldlM_tokens [] []
  rw [List.append_nil] at whole
  unfold ofTokens?
  rw [whole]
  rfl

end Tokens

end Json

end LoadTest
