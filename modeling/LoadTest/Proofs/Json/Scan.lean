/-
**What is written is scanned as the tokens that were written.**

A token ends with its last character, except a number, which ends where the next character does not
belong to it. Behind a number of a JSON value there is a mark or nothing, so the tokens are found
again one by one, and the compact text of a value is read as that value.

* `Token.Writable`: a token that can be written;
* `Token.Follows`: what may stand behind a token without a blank;
* `Token.scan_text`: such tokens are scanned from their texts;
* `Json.parse?_compact`: the compact text of a value stands for it.
-/

import Mathlib.Data.List.Chain
import LoadTest.Proofs.Json.NumberText
import LoadTest.Proofs.Json.Written

namespace LoadTest

namespace Json

open NumberPart

namespace Token

/-- A token that can be written: a number, a text of characters, a word or a mark. -/
def Writable : Token → Prop
  | .number text => IsNumber text
  | .string pieces => ∃ chars : List Char, pieces = chars.map .char
  | _ => True

/-- A bracket, a comma or a colon. -/
def isMark : Token → Bool
  | openObject | closeObject | openArray | closeArray | comma | colon => true
  | _ => false

/-- Whether the token is a number. -/
def isNumber : Token → Bool
  | number _ => true
  | _ => false

/-- Behind a number there is a mark. -/
def Follows (first second : Token) : Prop := first.isNumber = true → second.isMark = true

section Scanning

variable {tokens : List Token}

/-! ### Strings -/

theorem hexDigit?_digitChar : ∀ digit < 16, Text.hexDigit? (Nat.digitChar digit) = some digit := by
  decide

/-- A character by its number, in four hexadecimal digits of which the first two are zeros. -/
theorem foldlM_unit {code : ℕ} (small : code < 0x20) (pieces : List Piece) :
    (['\\', 'u', '0', '0'] ++ Nat.toDigits 16 (code / 16) ++
      Nat.toDigits 16 (code % 16)).foldlM step
        ⟨tokens, .quoted pieces⟩ =
      some ⟨tokens, .quoted (.unit code :: pieces)⟩ := by
  have high : code / 16 < 16 := by omega
  have low : code % 16 < 16 := Nat.mod_lt _ (by decide)
  rw [Nat.toDigits_of_lt_base high, Nat.toDigits_of_lt_base low]
  have third : step ⟨tokens, .unit pieces 2 0⟩ (code / 16).digitChar =
      some ⟨tokens, .unit pieces 3 (code / 16)⟩ := by
    simp [step, hexDigit?_digitChar _ high]
  have fourth : step ⟨tokens, .unit pieces 3 (code / 16)⟩ (code % 16).digitChar =
      some ⟨tokens, .quoted (.unit code :: pieces)⟩ := by
    simp only [step, hexDigit?_digitChar _ low, Option.map_some, if_true, Nat.div_add_mod]
  show ([(code / 16).digitChar] ++ [(code % 16).digitChar]).foldlM step
    ⟨tokens, .unit pieces 2 0⟩ = _
  rw [List.singleton_append, List.foldlM_cons, third]
  show [(code % 16).digitChar].foldlM step ⟨tokens, .unit pieces 3 (code / 16)⟩ = _
  rw [List.foldlM_cons, fourth]
  rfl

/-- **A character between quotes is read as its piece.** -/
theorem foldlM_escapeChar (c : Char) (pieces : List Piece) :
    (escapeChar c).foldlM step ⟨tokens, .quoted pieces⟩ =
      some ⟨tokens, .quoted (Piece.again (.char c) :: pieces)⟩ := by
  unfold escapeChar
  split
  case h_8 quote backslash backspace formFeed newLine return' tab =>
    rw [again_char]
    split
    · rename_i control
      have own : c ∉ shortEscapes := by
        simp only [shortEscapes, List.mem_cons, List.not_mem_nil, or_false, not_or]
        exact ⟨backspace, formFeed, newLine, return', tab⟩
      rw [if_pos ⟨control, own⟩]
      exact foldlM_unit control pieces
    · rename_i plain
      rw [if_neg fun both => plain both.1]
      have next : step ⟨tokens, .quoted pieces⟩ c = some ⟨tokens, .quoted (.char c :: pieces)⟩ := by
        unfold step
        dsimp only
        rw [if_neg quote, if_neg backslash, if_neg plain]
      rw [List.foldlM_cons, next]
      rfl
  all_goals rfl

/-- A text is scanned from quote to quote. -/
theorem foldlM_string (chars : List Char) :
    (text (.string (chars.map .char))).foldlM step ⟨tokens, .between⟩ =
      some ⟨again (.string (chars.map .char)) :: tokens, .between⟩ := by
  have inside : ∀ before : List Piece,
      ((chars.map .char).flatMap pieceText).foldlM step ⟨tokens, .quoted before⟩ =
        some ⟨tokens, .quoted (((chars.map .char).map Piece.again).reverse ++ before)⟩ := by
    induction chars with
    | nil => exact fun before => rfl
    | cons c rest ih =>
      intro before
      rw [List.map_cons, List.flatMap_cons, List.foldlM_append]
      show ((escapeChar c).foldlM step ⟨tokens, .quoted before⟩ >>= _) = _
      rw [foldlM_escapeChar]
      show ((rest.map .char).flatMap pieceText).foldlM step _ = _
      rw [ih]
      simp
  show ('"' :: (chars.map .char).flatMap pieceText ++ ['"']).foldlM step ⟨tokens, .between⟩ = _
  rw [List.cons_append, List.foldlM_cons]
  show ((chars.map .char).flatMap pieceText ++ ['"']).foldlM step ⟨tokens, .quoted []⟩ = _
  rw [List.foldlM_append, inside, List.append_nil]
  show some (Scan.mk (.string ((chars.map .char).map Piece.again).reverse.reverse :: tokens)
    .between) = _
  rw [List.reverse_reverse]
  rfl

/-! ### Numbers -/

/-- A character that begins a number begins nothing else. -/
theorem step_first {c : Char} {start : NumberPart} (first : first? c = some start) :
    step ⟨tokens, .between⟩ c = some ⟨tokens, .number start [c]⟩ := by
  have plain : isSpace c = false ∧ c ≠ '"' ∧ c.isLower = false := by
    by_cases minus : c = '-'
    · subst minus
      decide
    · have digit : c.isDigit = true := by
        unfold first? at first
        rw [if_neg minus] at first
        split at first
        · rename_i zero
          subst zero
          decide
        · split at first
          · assumption
          · contradiction
      refine ⟨?_, Text.ne_of_isDigit digit (by decide), Text.isLower_digit digit⟩
      unfold isSpace
      simp [Text.ne_of_isDigit digit]
  unfold step begin
  dsimp only
  rw [plain.1, plain.2.2, if_neg plain.2.1, first]
  rfl

/-- A number is scanned up to its last character. -/
theorem foldlM_number {text : List Char} (number : IsNumber text) : ∃ last, last.isEnd = true ∧
    text.foldlM step ⟨tokens, .between⟩ = some ⟨tokens, .number last text.reverse⟩ := by
  obtain ⟨c, rest, start, last, rfl, first, read, done⟩ := number
  have go : ∀ (start : NumberPart) (before : List Char), rest.foldlM next? start = some last →
      rest.foldlM step ⟨tokens, .number start before⟩ =
        some ⟨tokens, .number last (rest.reverse ++ before)⟩ := by
    clear read first
    induction rest with
    | nil =>
      intro start before read
      obtain rfl := Option.some.inj read
      rfl
    | cons d more ih =>
      intro start before read
      rw [List.foldlM_cons] at read ⊢
      obtain ⟨next, own, later⟩ := Option.bind_eq_some_iff.1 read
      have moved : step ⟨tokens, .number start before⟩ d =
          some ⟨tokens, .number next (d :: before)⟩ := by
        simp [step, own]
      rw [moved]
      show more.foldlM step _ = _
      rw [ih next (d :: before) later]
      simp
  refine ⟨last, done, ?_⟩
  rw [List.foldlM_cons, step_first first]
  show rest.foldlM step _ = _
  rw [go start [c] read, List.reverse_cons]

/-- The tokens so far are these, a number that may end here being one of them. -/
def Settled (scan : Scan) (tokens : List Token) : Prop := scan = ⟨tokens, .between⟩ ∨
  ∃ part text before, part.isEnd = true ∧ scan = ⟨before, .number part text⟩ ∧
    tokens = .number text.reverse :: before

theorem Settled.finish {scan : Scan} (settled : Settled scan tokens) :
    finish scan = some tokens.reverse := by
  rcases settled with rfl | ⟨part, text, before, done, rfl, rfl⟩
  · rfl
  · exact if_pos done

/-- A mark ends the number before it. -/
theorem Settled.mark {scan : Scan} (settled : Settled scan tokens) {mark : Token}
    (isMark : mark.isMark = true) :
    mark.text.foldlM step scan = some ⟨mark.again :: tokens, .between⟩ := by
  rcases settled with rfl | ⟨part, text, before, done, rfl, rfl⟩
  · cases mark <;> first | rfl | contradiction
  · cases mark <;> first | contradiction | (cases part <;> first | rfl | contradiction)

/-! ### Tokens -/

/-- **A token that is written is scanned**, up to the end of a number. -/
theorem foldlM_text {token : Token} (writable : token.Writable) : ∃ after,
    token.text.foldlM step ⟨tokens, .between⟩ = some after ∧
      Settled after (token.again :: tokens) ∧
        (token.isNumber = false → after = ⟨token.again :: tokens, .between⟩) := by
  cases token with
  | number text =>
    obtain ⟨last, done, read⟩ := foldlM_number writable
    refine ⟨_, read, .inr ⟨last, text.reverse, tokens, done, rfl, ?_⟩,
      fun other => by contradiction⟩
    rw [List.reverse_reverse]
    rfl
  | string pieces =>
    obtain ⟨chars, rfl⟩ := writable
    exact ⟨_, foldlM_string chars, .inl rfl, fun _ => rfl⟩
  | bool value => cases value <;> exact ⟨_, rfl, .inl rfl, fun _ => rfl⟩
  | _ => exact ⟨_, rfl, .inl rfl, fun _ => rfl⟩

/-- Tokens are scanned one by one, as long as a mark follows every number. -/
theorem foldlM_texts {more : List Token} (writable : ∀ token ∈ more, token.Writable)
    (apart : more.IsChain Follows) {scan : Scan} (settled : Settled scan tokens)
    (free : scan = ⟨tokens, .between⟩ ∨ ∀ first ∈ more.head?, first.isMark = true) : ∃ after,
      (more.flatMap text).foldlM step scan = some after ∧
        Settled after ((more.map again).reverse ++ tokens) := by
  induction more generalizing scan tokens with
  | nil => exact ⟨scan, rfl, settled⟩
  | cons token rest ih =>
    obtain ⟨next, read, settledNext, plain⟩ : ∃ next, token.text.foldlM step scan = some next ∧
        Settled next (token.again :: tokens) ∧
          (token.isNumber = false → next = ⟨token.again :: tokens, .between⟩) := by
      rcases free with rfl | mark
      · exact foldlM_text (writable token List.mem_cons_self)
      · exact ⟨_, settled.mark (mark token rfl), .inl rfl, fun _ => rfl⟩
    have later : next = ⟨token.again :: tokens, .between⟩ ∨
        ∀ first ∈ rest.head?, first.isMark = true := by
      cases number : token.isNumber with
      | false => exact .inl (plain number)
      | true =>
        refine .inr fun first isFirst => ?_
        obtain ⟨others, rfl⟩ := List.head?_eq_some_iff.1 isFirst
        exact (List.isChain_cons_cons.1 apart).1 number
    obtain ⟨after, others, end'⟩ := ih
      (fun other member => writable other (List.mem_cons_of_mem _ member)) apart.tail settledNext
      later
    refine ⟨after, ?_, ?_⟩
    · rw [List.flatMap_cons, List.foldlM_append, read]
      exact others
    · rw [List.map_cons, List.reverse_cons, List.append_assoc]
      exact end'

/-- **Tokens are scanned from their texts**, if a mark follows every number. -/
theorem scan_text {more : List Token} (writable : ∀ token ∈ more, token.Writable)
    (apart : more.IsChain Follows) : scan (more.flatMap text) = some (more.map again) := by
  obtain ⟨after, read, settled⟩ := @foldlM_texts [] more writable apart _ (.inl rfl) (.inl rfl)
  unfold scan
  rw [read, Option.bind_some, settled.finish, List.append_nil, List.reverse_reverse]

end Scanning

end Token

/-! ### Values -/

/-- Tokens that can be written one behind the other. -/
def Writes (tokens : List Token) : Prop :=
  (∀ token ∈ tokens, token.Writable) ∧ tokens.IsChain Token.Follows

section Writing

variable {tokens rest : List Token}

/-- Anything may stand behind a token that is no number. -/
theorem Writes.cons {first : Token} (writable : first.Writable) (plain : first.isNumber = false)
    (writes : Writes rest) : Writes (first :: rest) := by
  refine ⟨List.forall_mem_cons.2 ⟨writable, writes.1⟩, ?_⟩
  refine List.isChain_cons.2 ⟨fun second _ number => ?_, writes.2⟩
  rw [plain] at number
  contradiction

/-- A mark may stand behind anything. -/
theorem Writes.append {mark : Token} (isMark : mark.isMark = true) (writes : Writes tokens)
    (others : Writes (mark :: rest)) : Writes (tokens ++ mark :: rest) := by
  refine ⟨List.forall_mem_append.2 ⟨writes.1, others.1⟩, ?_⟩
  refine List.isChain_append.2 ⟨writes.2, others.2, ?_⟩
  intro last _ first isFirst number
  obtain rfl := Option.some.inj isFirst
  exact isMark

theorem writes_mark {mark : Token} (isMark : mark.isMark = true) (writes : Writes rest) :
    Writes (mark :: rest) := by
  cases mark <;> first | exact writes.cons trivial rfl | contradiction

theorem writes_single {token : Token} (writable : token.Writable) : Writes [token] :=
  ⟨List.forall_mem_singleton.2 writable, .singleton _⟩

theorem writes_items {items : List Json} (each : ∀ item ∈ items, Writes item.tokens) :
    Writes (itemTokens items) := by
  induction items with
  | nil => exact ⟨by simp [itemTokens], .nil⟩
  | cons item more ih =>
    have first := each item List.mem_cons_self
    have later := ih fun other member => each other (List.mem_cons_of_mem _ member)
    cases more with
    | nil => exact first
    | cons => exact first.append rfl (writes_mark rfl later)

theorem writes_members {members : List (String × Json)}
    (each : ∀ member ∈ members, Writes member.2.tokens) : Writes (memberTokens members) := by
  have key : ∀ text, (stringToken text).Writable := fun text => ⟨text.toList, rfl⟩
  induction members with
  | nil => exact ⟨by simp [memberTokens], .nil⟩
  | cons member more ih =>
    have first := each member List.mem_cons_self
    have later := ih fun other inside => each other (List.mem_cons_of_mem _ inside)
    cases more with
    | nil => exact (writes_mark rfl first).cons (key _) rfl
    | cons =>
      exact (writes_mark rfl (first.append rfl (writes_mark rfl later))).cons (key _) rfl

/-- **The tokens of a value can be written.** -/
theorem writes_tokens (value : Json) : Writes value.tokens := by
  induction value using inductOn with
  | null | bool => exact writes_single trivial
  | string text => exact writes_single ⟨text.toList, rfl⟩
  | number value =>
    refine writes_single ?_
    rcases value.isNumber_token with none | ⟨text, some, number⟩
    · rw [none]
      trivial
    · rw [some]
      exact number
  | array items ih =>
    exact writes_mark rfl ((writes_items ih).append rfl (writes_single trivial))
  | object members ih =>
    exact writes_mark rfl ((writes_members ih).append rfl (writes_single trivial))

end Writing

/-- **The compact text of a value stands for it.** -/
theorem parse?_compact (value : Json) : Written.parse? value.compact = some value.written := by
  obtain ⟨writable, apart⟩ := value.writes_tokens
  unfold Written.parse? compact
  rw [String.toList_ofList, Token.scan_text writable apart, Option.bind_some]
  exact value.ofTokens?_tokens

end Json

end LoadTest
