/-
**The grammar of threshold expressions.**

An expression is a statistic, a comparator and a number, with blanks around each of them. The reader
cuts a text at its first comparator mark and tries the spellings in turn; what it accepts is just
what can be written that way, and a text can be written that way at most once, up to its blanks.

* `Statistic.Written`, `Statistic.parse_eq_ok_iff`: how statistics are written;
* `Comparator.split?_append`: a spelling is read whole, never as a shorter one;
* `Expression.Spelling`: a text taken apart as an expression;
* `Expression.parse_eq_ok_iff`: what is read from a text, part by part;
* `Expression.read_iff_spelled`: the reader and the grammar agree.
-/

import LoadTest.Proofs.Table
import LoadTest.Proofs.Decimal.LiteralText
import LoadTest.Threshold.Expression

namespace LoadTest

open Decimal Text

/-! ### Comparators -/

namespace Comparator

theorem isMark_iff {c : Char} : isMark c = true ↔ c = '<' ∨ c = '>' ∨ c = '=' ∨ c = '!' := by
  simp [isMark, or_assoc]

theorem isMark_of_isBlank {c : Char} (blank : isBlank c = true) : isMark c = false := by
  refine eq_false_of_ne_true fun mark => ?_
  rcases isMark_iff.1 mark with rfl | rfl | rfl | rfl <;> exact absurd blank (by decide)

theorem isMark_of_isPart {c : Char} (part : Literal.isPart c = true) : isMark c = false := by
  refine eq_false_of_ne_true fun mark => ?_
  rcases isMark_iff.1 mark with rfl | rfl | rfl | rfl <;> exact absurd part (by decide)

variable {comparator : Comparator} {mark rest : List Char}

/-- A spelling is made of marks. -/
theorem isMark_of_spelling (spelled : (mark, comparator) ∈ spellings) :
    mark ≠ [] ∧ ∀ c ∈ mark, isMark c = true := by
  have each : ∀ spelling ∈ spellings, spelling.1 ≠ [] ∧ spelling.1.all isMark = true := by decide
  obtain ⟨any, marks⟩ := each _ spelled
  exact ⟨any, List.all_eq_true.1 marks⟩

/-- What is read begins with a spelling of the comparator. -/
theorem eq_append_of_split? {text : List Char} (cut : split? text = some (comparator, rest)) :
    ∃ mark, (mark, comparator) ∈ spellings ∧ text = mark ++ rest := by
  obtain ⟨⟨mark, spelled⟩, member, found⟩ := List.exists_of_findSome?_eq_some cut
  obtain ⟨behind, dropped, same⟩ := Option.map_eq_some_iff.1 found
  obtain ⟨rfl, rfl⟩ := Prod.mk.inj same
  exact ⟨mark, member, dropLead?_eq_some_iff.1 dropped⟩

/-- **A spelling is read whole**, where no further mark follows it. -/
theorem split?_append (spelled : (mark, comparator) ∈ spellings)
    (ends : ∀ c ∈ rest.head?, isMark c = false) :
    split? (mark ++ rest) = some (comparator, rest) := by
  simp only [spellings, List.mem_cons, List.not_mem_nil, or_false, Prod.mk.injEq] at spelled
  cases rest with
  | nil => rcases spelled with ⟨rfl, rfl⟩ | ⟨rfl, rfl⟩ | ⟨rfl, rfl⟩ | ⟨rfl, rfl⟩ | ⟨rfl, rfl⟩ |
      ⟨rfl, rfl⟩ | ⟨rfl, rfl⟩ <;> rfl
  | cons c more =>
    have differs : '=' ≠ c := by
      rintro rfl
      exact absurd (ends '=' rfl) (by decide)
    rcases spelled with ⟨rfl, rfl⟩ | ⟨rfl, rfl⟩ | ⟨rfl, rfl⟩ | ⟨rfl, rfl⟩ | ⟨rfl, rfl⟩ |
      ⟨rfl, rfl⟩ | ⟨rfl, rfl⟩ <;> simp [split?, spellings, dropLead?, differs]

/-- A text is cut where its first mark stands. -/
theorem cut_at_mark {before : List Char} (plain : ∀ c ∈ before, isMark c = false) (some : mark ≠ [])
    (marks : ∀ c ∈ mark, isMark c = true) (rest : List Char) :
    ((before ++ (mark ++ rest)).takeWhile fun c => !isMark c) = before ∧
      ((before ++ (mark ++ rest)).dropWhile fun c => !isMark c) = mark ++ rest := by
  obtain ⟨first, more, rfl⟩ := List.exists_cons_of_ne_nil some
  have stops : ¬(!isMark first) = true := by
    rw [marks first List.mem_cons_self]
    decide
  have passes : ∀ c ∈ before, (!isMark c) = true := fun c inside => by rw [plain c inside]; rfl
  rw [List.takeWhile_append_of_pos passes, List.dropWhile_append_of_pos passes, List.cons_append,
    List.takeWhile_cons_of_neg (p := fun c => !isMark c) stops,
    List.dropWhile_cons_of_neg (p := fun c => !isMark c) stops, List.append_nil]
  exact ⟨rfl, rfl⟩

end Comparator

/-! ### Statistics -/

namespace Statistic

/-- **How a statistic is written**: by its name, or as a rank from 0 to 100 behind a `p`, between
parentheses or without them. Blanks may stand around the rank. -/
inductive Written : Statistic → List Char → Prop
  | name {name : String} {statistic : Statistic} (entry : (name, statistic) ∈ named) :
    Written statistic name.toList
  | enclosed {rank : Float} {before number behind : List Char} (blanksBefore : Blanks before)
    (blanksBehind : Blanks behind) (read : readFloat? number = some rank)
    (inside : 0 ≤ rank ∧ rank ≤ 100) :
    Written (percentile rank) ('p' :: '(' :: (before ++ number ++ behind ++ [')']))
  | bare {rank : Float} {before number behind : List Char} (blanksBefore : Blanks before)
    (blanksBehind : Blanks behind) (read : readFloat? number = some rank)
    (inside : 0 ≤ rank ∧ rank ≤ 100) :
    Written (percentile rank) ('p' :: (before ++ number ++ behind))

variable {statistic : Statistic} {text : List Char}

/-- No statistic has a name that begins with a `p`. -/
theorem lookup_percentile (rest : List Char) : named.lookup (String.ofList ('p' :: rest)) = none := by
  refine List.lookup_eq_none_iff.2 fun entry member => bne_iff_ne.2 fun same => ?_
  have heads : entry.1.toList.head? = some 'p' := by
    rw [← same, String.toList_ofList]
    rfl
  have others : ∀ entry ∈ named, entry.1.toList.head? ≠ some 'p' := by decide
  exact others entry member heads

theorem rankText?_eq_some {rank : List Char} (found : rankText? text = some rank) :
    text = 'p' :: '(' :: (rank ++ [')']) ∨ text = 'p' :: rank := by
  rcases Option.or_eq_some_iff.1 found with closed | ⟨-, bare⟩
  · obtain ⟨inner, opened, ended⟩ := Option.bind_eq_some_iff.1 closed
    obtain ⟨reversed, same, rfl⟩ := Option.map_eq_some_iff.1 ended
    have whole : inner = reversed.reverse ++ [')'] :=
      List.reverse_eq_iff.1 (dropLead?_eq_some_iff.1 same) |>.trans (by simp)
    exact Or.inl (by rw [dropLead?_eq_some_iff.1 opened, whole]; rfl)
  · exact Or.inr (dropLead?_eq_some_iff.1 bare)

theorem rankText?_enclosed (rank : List Char) :
    rankText? ('p' :: '(' :: (rank ++ [')'])) = some rank := by
  simp [rankText?, dropLead?, dropTail?]

/-- Without a parenthesis behind the `p` there is no need of one at the end. -/
theorem rankText?_bare {rank : List Char} (other : rank.head? ≠ some '(') :
    rankText? ('p' :: rank) = some rank := by
  cases rank with
  | nil => rfl
  | cons c rest =>
    have differs : '(' ≠ c := fun same => other (same ▸ rfl)
    simp [rankText?, dropLead?, differs]

/-- What is read as a statistic is written as one. -/
theorem written_of_parse (read : parse text = .ok statistic) : Written statistic text := by
  unfold parse at read
  cases found : named.lookup (String.ofList text) with
  | some known =>
    rw [found] at read
    obtain rfl : known = statistic := Except.ok.inj read
    have written := Written.name (Table.mem_of_lookup found)
    rwa [String.toList_ofList] at written
  | none =>
    rw [found] at read
    dsimp only at read
    cases given : rankText? text with
    | none => rw [given] at read; contradiction
    | some rank =>
      rw [given] at read
      dsimp only at read
      cases number : readFloat? (trim rank) with
      | none => rw [number] at read; contradiction
      | some value =>
        rw [number] at read
        dsimp only at read
        split at read
        · rename_i inside
          obtain rfl : percentile value = statistic := Except.ok.inj read
          obtain ⟨before, behind, blanksBefore, blanksBehind, whole⟩ := exists_between rank
          rcases rankText?_eq_some given with rfl | rfl
          · rw [whole]
            exact .enclosed blanksBefore blanksBehind number inside
          · rw [whole]
            exact .bare blanksBefore blanksBehind number inside
        · contradiction

/-- What is written behind a `p` is read as the rank. -/
theorem parse_percentile {rest before number behind : List Char} {rank : Float}
    (given : rankText? ('p' :: rest) = some (before ++ number ++ behind))
    (blanksBefore : Blanks before) (blanksBehind : Blanks behind)
    (read : readFloat? number = some rank) (inside : 0 ≤ rank ∧ rank ≤ 100) :
    parse ('p' :: rest) = .ok (percentile rank) := by
  unfold parse
  rw [lookup_percentile, given]
  dsimp only
  rw [trim_between blanksBefore (Literal.isPart_of_readFloat? read).1 blanksBehind, read]
  exact if_pos inside

/-- What is written as a statistic is read as it. -/
theorem Written.parse_eq (written : Written statistic text) : parse text = .ok statistic := by
  cases written with
  | name entry =>
    simp only [named, List.mem_cons, List.not_mem_nil, or_false, Prod.mk.injEq] at entry
    rcases entry with ⟨rfl, rfl⟩ | ⟨rfl, rfl⟩ | ⟨rfl, rfl⟩ | ⟨rfl, rfl⟩ | ⟨rfl, rfl⟩ | ⟨rfl, rfl⟩ |
      ⟨rfl, rfl⟩ <;> rfl
  | enclosed blanksBefore blanksBehind read inside =>
    exact parse_percentile (rankText?_enclosed _) blanksBefore blanksBehind read inside
  | @bare rank before number behind blanksBefore blanksBehind read inside =>
    refine parse_percentile (rankText?_bare ?_) blanksBefore blanksBehind read inside
    -- It is neither a blank nor a character of the number.
    intro opens
    have stands : '(' ∈ before ++ number ++ behind := List.mem_of_mem_head? opens
    simp only [List.mem_append] at stands
    rcases stands with (blank | part) | blank
    · exact absurd (blanksBefore _ blank) (by decide)
    · exact absurd ((Literal.isPart_of_readFloat? read).2 _ part) (by decide)
    · exact absurd (blanksBehind _ blank) (by decide)

/-- **A statistic is read from just the texts that it is written as.** -/
theorem parse_eq_ok_iff : parse text = .ok statistic ↔ Written statistic text :=
  ⟨written_of_parse, Written.parse_eq⟩

/-- A statistic stands in front of the blanks that it may end with. -/
theorem Written.exists_solid (written : Written statistic text) :
    ∃ core behind, text = core ++ behind ∧ Solid core ∧ Blanks behind ∧ Written statistic core := by
  cases written with
  | @name word _ entry =>
    have solid : ∀ entry ∈ named, entry.1.toList ≠ [] ∧
        (entry.1.toList.all fun c => !isBlank c) = true := by decide
    obtain ⟨any, each⟩ := solid _ entry
    exact ⟨word.toList, [], (List.append_nil _).symm,
      solid_of_each any fun c inside => by simpa using List.all_eq_true.1 each c inside, Blanks.nil,
      .name entry⟩
  | @enclosed rank before number behind blanksBefore blanksBehind read inside =>
    refine ⟨_, [], (List.append_nil _).symm, ⟨⟨'p', _, rfl, by decide⟩, ?_⟩, Blanks.nil,
      .enclosed blanksBefore blanksBehind read inside⟩
    exact ⟨'p' :: '(' :: (before ++ number ++ behind), ')', rfl, by decide⟩
  | @bare rank before number behind blanksBefore blanksBehind read inside =>
    obtain ⟨front, c, tails, visible⟩ := (Literal.isPart_of_readFloat? read).1.last
    refine ⟨'p' :: (before ++ number), behind, rfl, ⟨⟨'p', _, rfl, by decide⟩, ?_⟩, blanksBehind, ?_⟩
    · exact ⟨'p' :: (before ++ front), c, by rw [tails]; simp, visible⟩
    · have written := Written.bare blanksBefore Blanks.nil read inside
      rwa [List.append_nil] at written

/-- No comparator mark stands in a statistic. -/
theorem Written.isMark_eq_false (written : Written statistic text) :
    ∀ c ∈ text, Comparator.isMark c = false := by
  have ranked {before number behind : List Char} {rank : Float} (blanksBefore : Blanks before)
      (blanksBehind : Blanks behind) (read : readFloat? number = some rank) :
      ∀ c ∈ before ++ number ++ behind, Comparator.isMark c = false := by
    intro c inside
    rw [List.mem_append, List.mem_append] at inside
    rcases inside with (blank | part) | blank
    · exact Comparator.isMark_of_isBlank (blanksBefore c blank)
    · exact Comparator.isMark_of_isPart ((Literal.isPart_of_readFloat? read).2 c part)
    · exact Comparator.isMark_of_isBlank (blanksBehind c blank)
  cases written with
  | name entry =>
    have plain : ∀ entry ∈ named, (entry.1.toList.all fun c => !Comparator.isMark c) = true := by
      decide
    exact fun c inside => by simpa using List.all_eq_true.1 (plain _ entry) c inside
  | enclosed blanksBefore blanksBehind read inside =>
    refine List.forall_mem_cons.2 ⟨by decide, List.forall_mem_cons.2 ⟨by decide, ?_⟩⟩
    refine List.forall_mem_append.2 ⟨ranked blanksBefore blanksBehind read, ?_⟩
    exact List.forall_mem_singleton.2 (by decide)
  | bare blanksBefore blanksBehind read inside =>
    exact List.forall_mem_cons.2 ⟨by decide, ranked blanksBefore blanksBehind read⟩

end Statistic

/-! ### Expressions -/

namespace Expression

variable {input : String} {expression : Expression}

theorem parseBound_eq_ok_iff {text : List Char} {bound : Float} :
    parseBound text = .ok bound ↔ readFloat? text = some bound ∧ bound.isFinite = true := by
  unfold parseBound
  cases readFloat? text with
  | none => exact ⟨(nomatch ·), fun ⟨read, _⟩ => (nomatch read)⟩
  | some value =>
    dsimp only
    split
    · rename_i finite
      constructor
      · intro read
        obtain rfl : value = bound := Except.ok.inj read
        exact ⟨rfl, finite⟩
      · rintro ⟨same, -⟩
        rw [Option.some.inj same]
    · rename_i infinite
      refine ⟨(nomatch ·), fun ⟨same, finite⟩ => absurd ?_ infinite⟩
      rwa [Option.some.inj same]

/-- **What is read from a text, part by part.** -/
theorem parse_eq_ok_iff : parse input = .ok expression ↔
    ∃ rest, Comparator.split? ((trim input.toList).dropWhile fun c => !Comparator.isMark c) =
        some (expression.comparator, rest) ∧
      Statistic.parse (trim ((trim input.toList).takeWhile fun c => !Comparator.isMark c)) =
        .ok expression.statistic ∧
      parseBound (trim rest) = .ok expression.bound := by
  unfold parse
  dsimp only
  generalize (trim input.toList).dropWhile (fun c => !Comparator.isMark c) = marked
  generalize Statistic.parse (trim ((trim input.toList).takeWhile _)) = statistic
  constructor
  · intro read
    split at read
    · contradiction
    cases cut : Comparator.split? marked with
    | none => rw [cut] at read; contradiction
    | some parts =>
      rw [cut] at read
      obtain ⟨comparator, rest⟩ := parts
      dsimp only at read
      cases statistic with
      | error fault => contradiction
      | ok statistic =>
        cases limit : parseBound (trim rest) with
        | error fault => rw [limit] at read; contradiction
        | ok bound =>
          rw [limit] at read
          obtain rfl := Except.ok.inj read
          exact ⟨rest, rfl, rfl, limit⟩
  · rintro ⟨rest, cut, rfl, limit⟩
    have some : marked.isEmpty = false := by
      cases marked with
      | nil => contradiction
      | cons => rfl
    rw [some, cut]
    dsimp only
    rw [limit]
    rfl

/-- **A text taken apart as an expression**: a statistic, a comparator and a finite number, with
blanks around each of them. -/
structure Spelling (text : List Char) where
  lead : List Char
  subject : List Char
  gap : List Char
  mark : List Char
  space : List Char
  number : List Char
  rest : List Char
  /-- What the parts stand for. -/
  expression : Expression
  joined : text = lead ++ subject ++ gap ++ mark ++ space ++ number ++ rest
  blanks : Blanks lead ∧ Blanks gap ∧ Blanks space ∧ Blanks rest
  statistic : Statistic.Written expression.statistic subject
  comparator : (mark, expression.comparator) ∈ Comparator.spellings
  bound : readFloat? number = some expression.bound
  finite : expression.bound.isFinite = true

/-- What is read as an expression is spelled as one. -/
theorem exists_spelling (read : parse input = .ok expression) :
    ∃ spelling : Spelling input.toList, spelling.expression = expression := by
  obtain ⟨behind, cut, statistic, limit⟩ := parse_eq_ok_iff.1 read
  obtain ⟨bound, finite⟩ := parseBound_eq_ok_iff.1 limit
  obtain ⟨mark, spelled, marked⟩ := Comparator.eq_append_of_split? cut
  obtain ⟨lead, rest, blankLead, blankRest, whole⟩ := exists_between input.toList
  obtain ⟨front, gap, blankFront, blankGap, stated⟩ :=
    exists_between ((trim input.toList).takeWhile fun c => !Comparator.isMark c)
  obtain ⟨space, tail, blankSpace, blankTail, numbered⟩ := exists_between behind
  refine ⟨⟨lead ++ front, _, gap, mark, space, _, tail ++ rest, expression, ?_,
    ⟨blankLead.append blankFront, blankGap, blankSpace, blankTail.append blankRest⟩,
    Statistic.parse_eq_ok_iff.1 statistic, spelled, bound, finite⟩, rfl⟩
  calc input.toList = lead ++ trim input.toList ++ rest := whole
    _ = lead ++ (front ++ trim ((trim input.toList).takeWhile fun c => !Comparator.isMark c) ++ gap ++
        (mark ++ (space ++ trim behind ++ tail))) ++ rest := by
      rw [← stated, ← numbered, ← marked, List.takeWhile_append_dropWhile]
    _ = _ := by simp only [List.append_assoc]

namespace Spelling

variable {text : List Char}

/-- **The marks of a text are those of its comparator.** -/
theorem filter_isMark (spelling : Spelling text) : text.filter Comparator.isMark = spelling.mark := by
  obtain ⟨blankLead, blankGap, blankSpace, blankRest⟩ := spelling.blanks
  have unmarked {part : List Char} (plain : ∀ c ∈ part, Comparator.isMark c = false) :
      part.filter Comparator.isMark = [] :=
    List.filter_eq_nil_iff.2 fun c inside => by simp [plain c inside]
  have blank {part : List Char} (blanks : Blanks part) : part.filter Comparator.isMark = [] :=
    unmarked fun c inside => Comparator.isMark_of_isBlank (blanks c inside)
  have all : spelling.mark.filter Comparator.isMark = spelling.mark :=
    List.filter_eq_self.2 (Comparator.isMark_of_spelling spelling.comparator).2
  have number := unmarked fun c inside =>
    Comparator.isMark_of_isPart ((Literal.isPart_of_readFloat? spelling.bound).2 c inside)
  conv_lhs => rw [spelling.joined]
  simp only [List.filter_append, blank blankLead, blank blankGap, blank blankSpace, blank blankRest,
    unmarked spelling.statistic.isMark_eq_false, number, all, List.nil_append, List.append_nil]

example : IsEmpty (Spelling "rate<==1".toList) := by
  refine ⟨fun spelling => ?_⟩
  have spelled : spelling.mark ∈ Comparator.spellings.map Prod.fst :=
    List.mem_map_of_mem spelling.comparator
  rw [← spelling.filter_isMark] at spelled
  exact absurd spelled (by decide)

/-- A spelling without the blanks at its ends; `core` is the statistic without those behind it. -/
theorem trim_eq (spelling : Spelling text) {core tail : List Char} (solid : Solid core)
    (split : spelling.subject = core ++ tail) : trim text =
      core ++ (tail ++ spelling.gap) ++ (spelling.mark ++ (spelling.space ++ spelling.number)) := by
  obtain ⟨blankLead, -, -, blankRest⟩ := spelling.blanks
  have solidNumber := (Literal.isPart_of_readFloat? spelling.bound).1
  calc trim text = trim (spelling.lead ++ (core ++ (tail ++ spelling.gap ++ spelling.mark ++
        spelling.space) ++ spelling.number) ++ spelling.rest) :=
      congrArg trim (spelling.joined.trans (by rw [split]; simp only [List.append_assoc]))
    _ = core ++ (tail ++ spelling.gap ++ spelling.mark ++ spelling.space) ++ spelling.number :=
      trim_between blankLead (solid.append _ solidNumber) blankRest
    _ = _ := by simp only [List.append_assoc]

/-- **What a text is spelled as is read from it.** -/
theorem parse_eq (spelling : Spelling input.toList) : parse input = .ok spelling.expression := by
  obtain ⟨-, blankGap, blankSpace, -⟩ := spelling.blanks
  obtain ⟨core, tail, split, solid, blankTail, written⟩ := spelling.statistic.exists_solid
  obtain ⟨solidNumber, parts⟩ := Literal.isPart_of_readFloat? spelling.bound
  obtain ⟨some, marks⟩ := Comparator.isMark_of_spelling spelling.comparator
  have behind : ∀ c ∈ (spelling.space ++ spelling.number).head?, Comparator.isMark c = false := by
    intro c heads
    rcases List.mem_append.1 (List.mem_of_mem_head? heads) with blank | part
    · exact Comparator.isMark_of_isBlank (blankSpace c blank)
    · exact Comparator.isMark_of_isPart (parts c part)
  have before : ∀ c ∈ core ++ (tail ++ spelling.gap), Comparator.isMark c = false := by
    rw [← List.append_assoc, ← split, List.forall_mem_append]
    exact ⟨spelling.statistic.isMark_eq_false,
      fun c inside => Comparator.isMark_of_isBlank (blankGap c inside)⟩
  obtain ⟨taken, dropped⟩ := Comparator.cut_at_mark before some marks
    (spelling.space ++ spelling.number)
  refine parse_eq_ok_iff.2 ⟨spelling.space ++ spelling.number, ?_, ?_, ?_⟩
  · rw [spelling.trim_eq solid split, dropped]
    exact Comparator.split?_append spelling.comparator behind
  · have trimmed := trim_between Blanks.nil solid (blankTail.append blankGap)
    rw [List.nil_append] at trimmed
    rw [spelling.trim_eq solid split, taken, trimmed]
    exact written.parse_eq
  · have trimmed := trim_between blankSpace solidNumber Blanks.nil
    rw [List.append_nil] at trimmed
    rw [trimmed]
    exact parseBound_eq_ok_iff.2 ⟨spelling.bound, spelling.finite⟩

end Spelling

/-- **The grammar of expressions.** A text is read just when it can be spelled as an expression.
However it is spelled, it says the same, and that is what is read. All its marks belong to the
comparator, so no comparator is read as a shorter one with something behind it. -/
theorem read_iff_spelled (input : String) :
    ((∃ expression, parse input = .ok expression) ↔ Nonempty (Spelling input.toList)) ∧
      (∀ spelling : Spelling input.toList, parse input = .ok spelling.expression ∧
        input.toList.filter Comparator.isMark = spelling.mark) ∧
      ∀ one other : Spelling input.toList, one.expression = other.expression := by
  refine ⟨⟨?_, ?_⟩, fun spelling => ⟨spelling.parse_eq, spelling.filter_isMark⟩, ?_⟩
  · rintro ⟨expression, read⟩
    obtain ⟨spelling, -⟩ := exists_spelling read
    exact ⟨spelling⟩
  · rintro ⟨spelling⟩
    exact ⟨spelling.expression, spelling.parse_eq⟩
  · intro one other
    exact Except.ok.inj (one.parse_eq.symm.trans other.parse_eq)

end Expression

end LoadTest
