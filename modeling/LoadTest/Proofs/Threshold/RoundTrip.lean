/-
**An expression survives its texts.**

An expression is written with the shortest names of its parts and without blanks. Its bound begins
with a digit or a minus, which no comparator has, and its percentile stands between parentheses, so
the text can be taken apart in the way it was put together; the numbers are read from their texts bit
for bit. What a threshold keeps for its reports is the text that was given, without the blanks
around it, and this is a way to spell the same expression.

* `Statistic.Written.show`, `Expression.Spelling.exists_show`: what is written is a spelling;
* `Expression.Spelling.exists_trim`: so is what is left of a text between its blanks;
* `Expression.survives_texts`: reading what was written, or what was kept.
-/

import LoadTest.Proofs.Decimal.Shown
import LoadTest.Proofs.Metric.Percentile
import LoadTest.Proofs.Threshold.Grammar
import LoadTest.Threshold.Basic

namespace LoadTest

open Decimal Rounding Text

/-- A statistic is written as it is shown. -/
theorem Statistic.Written.show {statistic : Statistic} {text : List Char}
    (written : Written statistic text) : Written statistic statistic.show.toList := by
  have ranked {rank : Float} (inside : 0 ≤ rank ∧ rank ≤ 100) :
      Written (percentile rank) (percentile rank).show.toList := by
    obtain ⟨p, denotes, -⟩ := denotes_of_between (denotes_exact (n := 0) (by decide))
      (denotes_exact (n := 100) (by decide)) inside.1 inside.2
    have read := readFloat?_showFloat (isFinite_iff.2 ⟨p, denotes⟩)
    have enclosed := Written.enclosed Blanks.nil Blanks.nil read inside
    rw [List.append_nil, List.nil_append] at enclosed
    have shown : (percentile rank).show.toList =
        'p' :: '(' :: ((showFloat rank).toList ++ [')']) := by
      show ("p(" ++ showFloat rank ++ ")").toList = _
      rw [String.toList_append, String.toList_append]
      rfl
    rwa [shown]
  cases written with
  | name entry =>
    have same : ∀ entry ∈ named, entry.1 = entry.2.show := by decide
    rw [← same _ entry]
    exact .name entry
  | enclosed _ _ _ inside => exact ranked inside
  | bare _ _ _ inside => exact ranked inside

/-- A comparator is spelled as it is shown. -/
theorem Comparator.spelled_show (comparator : Comparator) :
    (comparator.show.toList, comparator) ∈ spellings := by
  cases comparator <;> decide

namespace Expression.Spelling

variable {text : List Char}

/-- **An expression that is spelled in some way is spelled as it is shown.** -/
theorem exists_show (spelling : Spelling text) :
    ∃ other : Spelling spelling.expression.show.toList, other.expression = spelling.expression := by
  refine ⟨⟨[], spelling.expression.statistic.show.toList, [],
    spelling.expression.comparator.show.toList, [], (showFloat spelling.expression.bound).toList, [],
    spelling.expression, ?_, ⟨Blanks.nil, Blanks.nil, Blanks.nil, Blanks.nil⟩,
    spelling.statistic.show, Comparator.spelled_show _, readFloat?_showFloat spelling.finite,
    spelling.finite⟩, rfl⟩
  show (spelling.expression.statistic.show ++ spelling.expression.comparator.show ++
    showFloat spelling.expression.bound).toList = _
  rw [String.toList_append, String.toList_append]
  simp only [List.nil_append, List.append_nil]

/-- **It is spelled by the same text without the blanks around it.** -/
theorem exists_trim (spelling : Spelling text) :
    ∃ other : Spelling (String.ofList (trim text)).toList,
      other.expression = spelling.expression := by
  rw [String.toList_ofList]
  obtain ⟨-, blankGap, blankSpace, -⟩ := spelling.blanks
  obtain ⟨core, tail, split, solid, blankTail, written⟩ := spelling.statistic.exists_solid
  refine ⟨⟨[], core, tail ++ spelling.gap, spelling.mark, spelling.space, spelling.number, [],
    spelling.expression, ?_, ⟨Blanks.nil, blankTail.append blankGap, blankSpace, Blanks.nil⟩,
    written, spelling.comparator, spelling.bound, spelling.finite⟩, rfl⟩
  rw [spelling.trim_eq solid split]
  simp only [List.nil_append, List.append_nil, List.append_assoc]

end Expression.Spelling

namespace Expression

/-- **An expression that is read survives its texts.** It is read again from the text that it is
written as, to the last bit of its numbers, so that text is written again; and it is read again from
the text that a threshold keeps of it, whatever the metric. -/
theorem survives_texts {text : String} {expression : Expression}
    (read : parse text = .ok expression) :
    parse expression.show = .ok expression ∧
      (parse expression.show).map «show» = .ok expression.show ∧
      ∀ metric threshold, Threshold.parse metric text = .ok threshold →
        threshold.expression = expression ∧ parse threshold.source = .ok threshold.expression := by
  obtain ⟨spelling, rfl⟩ := exists_spelling read
  obtain ⟨shown, same⟩ := spelling.exists_show
  have again : parse spelling.expression.show = .ok spelling.expression :=
    shown.parse_eq.trans (congrArg Except.ok same)
  refine ⟨again, by rw [again]; rfl, fun metric threshold made => ?_⟩
  obtain ⟨-, own, source⟩ := Threshold.parts_of_parse made
  have equal := Except.ok.inj (own.symm.trans read)
  obtain ⟨kept, rest⟩ := spelling.exists_trim
  refine ⟨equal, ?_⟩
  rw [source, equal, ← rest]
  exact kept.parse_eq

/-- Minus zero keeps its sign, and a percentile its digits. -/
theorem survives_texts_minus : parse " p 99.9 ===-0" =
      .ok ⟨.percentile (Float.ofBits 0x4058F9999999999A), .eq, Float.ofBits 0x8000000000000000⟩ ∧
    parse "p(99.9)==-0" =
      .ok ⟨.percentile (Float.ofBits 0x4058F9999999999A), .eq, Float.ofBits 0x8000000000000000⟩ := by
  have read : parse " p 99.9 ===-0" = .ok
      ⟨.percentile (Float.ofBits 0x4058F9999999999A), .eq, Float.ofBits 0x8000000000000000⟩ := by
    decide +kernel
  have shown : (⟨.percentile (Float.ofBits 0x4058F9999999999A), .eq,
      Float.ofBits 0x8000000000000000⟩ : Expression).show = "p(99.9)==-0" := by
    decide +kernel
  have again := (survives_texts read).1
  rw [shown] at again
  exact ⟨read, again⟩

end Expression

end LoadTest
