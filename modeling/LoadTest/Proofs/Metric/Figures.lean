/-
**What is judged is what is reported.**

A threshold is judged by a statistic of an aggregate, and a summary shows ten statistics of it by
their names. They are computed apart from each other, one by the statistic that is asked for and all
of them by the kind of metric. Where a statistic has a value, the summary shows that value under the
name that the statistic is written with.

* `Statistic.shown`: the statistics that a summary shows;
* `MetricSummary.figure?`: what a summary shows under a name;
* `Aggregate.figure?_of_statistic`: a statistic that has a value is shown with it.
-/

import LoadTest.Proofs.Metric.SummarySurvival
import LoadTest.Proofs.Threshold.RoundTrip

namespace LoadTest

namespace Statistic

/-- **The statistics that a summary shows**, with their names. -/
def shown : List (String × Statistic) :=
  [("count", count), ("sum", sum), ("min", min), ("max", max), ("avg", avg), ("med", med),
    ("p(90)", percentile 90), ("p(95)", percentile 95), ("p(99)", percentile 99), ("rate", rate)]

theorem parse_shown : ∀ entry ∈ shown, parse entry.1.toList = .ok entry.2 := by
  decide +kernel

/-- **A statistic that is written like one of them is that one**, to the last bit of its rank. -/
theorem mem_shown {statistic : Statistic} {text : List Char} (read : parse text = .ok statistic)
    (named : statistic.show ∈ shown.map Prod.fst) : (statistic.show, statistic) ∈ shown := by
  obtain ⟨⟨name, other⟩, inside, same⟩ := List.mem_map.1 named
  have again : parse statistic.show.toList = .ok statistic :=
    (written_of_parse read).show.parse_eq
  rw [← same, parse_shown _ inside] at again
  rw [← same, ← Except.ok.inj again]
  exact inside

end Statistic

namespace MetricSummary

/-- The figures of a summary with their names. -/
def figures (summary : MetricSummary) : List (String × Option Float) :=
  [("count", some summary.count), ("sum", some summary.sum)] ++ summary.optional

/-- **What a summary shows under a name.** -/
def figure? (summary : MetricSummary) (name : String) : Option Float :=
  (summary.figures.lookup name).join

/-- Each figure stands in the text of the summary. -/
theorem mem_slots {summary : MetricSummary} {name : String} {x : Float}
    (shows : summary.figure? name = some x) : (name, some (Json.ofFloat x)) ∈ summary.slots := by
  have listed : (name, some x) ∈ summary.figures :=
    Table.mem_of_lookup (Option.join_eq_some_iff.1 shows)
  rcases List.mem_append.1 listed with always | optional
  · simp only [List.mem_cons, Prod.mk.injEq, Option.some.injEq, List.not_mem_nil, or_false] at always
    rcases always with ⟨rfl, rfl⟩ | ⟨rfl, rfl⟩
    · exact List.mem_cons_of_mem _ List.mem_cons_self
    · exact List.mem_cons_of_mem _ (List.mem_cons_of_mem _ List.mem_cons_self)
  · exact summary.mem_optional optional

end MetricSummary

namespace Aggregate

variable {aggregate : Aggregate Float}

/-- **A statistic that has a value is shown with it.** -/
theorem figure?_of_statistic {name : String} {statistic : Statistic} {observed : Float}
    (inside : (name, statistic) ∈ Statistic.shown)
    (found : aggregate.statistic statistic = .ok observed) :
    aggregate.summary.figure? name = some observed := by
  unfold Aggregate.statistic at found
  split at found
  · contradiction
  split at found
  · contradiction
  dsimp only at found
  split at found
  · rename_i value same
    obtain rfl := Except.ok.inj found
    simp only [Statistic.shown, List.mem_cons, Prod.mk.injEq, List.not_mem_nil, or_false] at inside
    rcases inside with ⟨rfl, rfl⟩ | ⟨rfl, rfl⟩ | ⟨rfl, rfl⟩ | ⟨rfl, rfl⟩ | ⟨rfl, rfl⟩ | ⟨rfl, rfl⟩ |
      ⟨rfl, rfl⟩ | ⟨rfl, rfl⟩ | ⟨rfl, rfl⟩ | ⟨rfl, rfl⟩
    · cases aggregate <;> exact same
    all_goals exact same
  · contradiction

end Aggregate

end LoadTest
